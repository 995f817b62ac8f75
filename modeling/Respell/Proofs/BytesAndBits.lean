/-
  The bytes and the bits of a value are its digits.

  A value is shown as bytes, which are hexadecimal digits cut in pairs, and as a row of 32 bits, which
  are binary digits with zeros in front.  Registers look at the bits in another way: they shift the low
  32 bits of the value and keep the last one.  This file proves that no digit gets lost or changed in any
  of them.

  1. **Padded digits.**  Zeros in front of digits do not change what they are worth (`ofDigits_padded`),
     and a digit is what is left of the number after as many divisions as there are digits behind it
     (`getElem?_of_ofDigits`).

  2. **Bytes.**  Two digits in radix 16 are one in radix 256, and the pairs are worth what the digits are
     (`ofDigits_pairWorths`).  There are at most `2 * k` of the ones if, and only if, there are at most `k`
     of the others, so no byte is more than the value needs (`bytes_lose_nothing`).

  3. **Bits.**  Below bit 32 the bits of a number and of its rest modulo `2 ^ 32` are the same, also below
     zero (`word_bit`).  The row has them from the last to the first (`getElem?_bitRow`).

  4. **Registers** report just these bits, and their own labels in ascending order (`bits_agree`).
-/
import Mathlib.Data.Nat.Digits.Lemmas
import Respell.Bitfield
import Respell.Proofs.Limits

namespace Respell

open Numeral (Digits IsDigit digitsText isDigit_iff ofDigits_eq)

/-! ## Padded digits -/

/-- The digits of a number, with as many zeros in front as make them `n` digits. -/
def padded (radix n v : Nat) : List Nat :=
  List.replicate (n - (digits radix v).length) 0 ++ digits radix v

section Padded

variable {radix n v : Nat}

theorem length_padded (h : (digits radix v).length ≤ n) : (padded radix n v).length = n := by
  rw [padded, List.length_append, List.length_replicate]
  omega

theorem lt_of_mem_padded (hr : 1 < radix) : ∀ d ∈ padded radix n v, d < radix := by
  intro d hd
  rcases List.mem_append.1 hd with hd | hd
  · rw [List.eq_of_mem_replicate hd]
    omega
  · exact lt_of_mem_digits hr d hd

/-- Zeros in front of digits do not change what they are worth. -/
theorem ofDigits_padded : ofDigits radix (padded radix n v) = v := by
  rw [ofDigits_eq, padded, List.reverse_append, List.reverse_replicate,
    Nat.ofDigits_append_replicate_zero, ← ofDigits_eq, ofDigits_digits]

/-- Padding the digits of a number as text is padding its digits. -/
theorem padLeft_digitsText : Text.padLeft n '0' (digitsText radix v) = (padded radix n v).map digitChar := by
  rw [Text.padLeft, digitsText, padded, List.map_append, List.map_replicate, List.length_map]
  rfl

/-- **A digit is what is left of the number** after as many divisions as there are digits behind it. -/
theorem getElem?_of_ofDigits {ds : List Nat} (hds : ∀ d ∈ ds, d < radix) {i : Nat} (hi : i < ds.length) :
    ds[ds.length - 1 - i]? = some (ofDigits radix ds / radix ^ i % radix) := by
  have hds' : ∀ d ∈ ds.reverse, d < radix := fun d hd => hds d (List.mem_reverse.1 hd)
  have hi' : i < ds.reverse.length := by
    rw [List.length_reverse]
    exact hi
  have hlt : ds.reverse[i] < radix := hds' _ (List.getElem_mem hi')
  have hdrop : ofDigits radix ds / radix ^ i = Nat.ofDigits radix (ds.reverse.drop i) := by
    rw [ofDigits_eq]
    exact Nat.ofDigits_div_pow_eq_ofDigits_drop i (by omega) _ hds'
  rw [hdrop, List.drop_eq_getElem_cons hi', Nat.ofDigits_cons, Nat.add_mul_mod_self_left,
    Nat.mod_eq_of_lt hlt, ← List.getElem?_reverse hi, List.getElem?_eq_getElem hi']

end Padded

namespace View

/-! ## Bytes -/

/-- Whether a text writes a byte: two hexadecimal digits, in upper case. -/
def IsByte (g : Text) (n : Nat) : Prop :=
  g.length = 2 ∧ (∀ c ∈ g, c ∈ "0123456789ABCDEF".toList) ∧ Digits .hex g n

/-- What hexadecimal digits are worth two by two. -/
def pairWorths : List Nat → List Nat
  | [] => []
  | [_] => []
  | hi :: lo :: ds => (16 * hi + lo) :: pairWorths ds

theorem isByte_pair {hi lo : Nat} (hhi : hi < 16) (hlo : lo < 16) :
    IsByte [digitChar hi, digitChar lo] (16 * hi + lo) := by
  have hupper : ∀ d < 16, digitChar d ∈ "0123456789ABCDEF".toList := by decide
  have hdigit : ∀ d < 16, IsDigit d (digitChar d) := fun d hd =>
    isDigit_iff.2 (digitValue?_digitChar d hd)
  refine ⟨rfl, ?_, [hi, lo], by simp, ?_, ?_, ?_⟩
  · intro c hc
    rcases List.mem_pair.1 hc with rfl | rfl
    · exact hupper hi hhi
    · exact hupper lo hlo
  · exact .cons (hdigit hi hhi) (.cons (hdigit lo hlo) .nil)
  · intro d hd
    rcases List.mem_pair.1 hd with rfl | rfl
    · exact hhi
    · exact hlo
  · show 16 * hi + lo = Nat.ofDigits 16 [lo, hi]
    rw [Nat.ofDigits_cons, Nat.ofDigits_singleton]
    exact Nat.add_comm _ _

/-- Digits of an even number, cut in pairs, are bytes. -/
theorem forall₂_pairs : ∀ {ds : List Nat}, ds.length % 2 = 0 → (∀ d ∈ ds, d < 16) →
    List.Forall₂ IsByte (pairs (ds.map digitChar)) (pairWorths ds)
  | [], _, _ => .nil
  | [_], heven, _ => absurd heven Nat.one_ne_zero
  | hi :: lo :: ds, heven, hds => by
    obtain ⟨hhi, hds⟩ := List.forall_mem_cons.1 hds
    obtain ⟨hlo, hds⟩ := List.forall_mem_cons.1 hds
    refine .cons (isByte_pair hhi hlo) (forall₂_pairs ?_ hds)
    rw [List.length_cons, List.length_cons] at heven
    omega

theorem length_pairWorths : ∀ ds : List Nat, (pairWorths ds).length = ds.length / 2
  | [] => rfl
  | [_] => (Nat.div_eq_of_lt Nat.one_lt_two).symm
  | _ :: _ :: ds => by
    rw [pairWorths, List.length_cons, List.length_cons, List.length_cons, length_pairWorths ds]
    omega

theorem lt_of_mem_pairWorths : ∀ {ds : List Nat}, (∀ d ∈ ds, d < 16) → ∀ b ∈ pairWorths ds, b < 256
  | [], _, _, hb => by cases hb
  | [_], _, _, hb => by cases hb
  | hi :: lo :: ds, hds, b, hb => by
    obtain ⟨hhi, hds⟩ := List.forall_mem_cons.1 hds
    obtain ⟨hlo, hds⟩ := List.forall_mem_cons.1 hds
    rcases List.mem_cons.1 hb with rfl | hb
    · omega
    · exact lt_of_mem_pairWorths hds b hb

theorem foldl_pairWorths : ∀ {ds : List Nat}, ds.length % 2 = 0 → ∀ n : Nat,
    (pairWorths ds).foldl (fun n d => n * 256 + d) n = ds.foldl (fun n d => n * 16 + d) n
  | [], _, _ => rfl
  | [_], heven, _ => absurd heven Nat.one_ne_zero
  | hi :: lo :: ds, heven, n => by
    have heven' : ds.length % 2 = 0 := by
      rw [List.length_cons, List.length_cons] at heven
      omega
    have hstep : n * 256 + (16 * hi + lo) = (n * 16 + hi) * 16 + lo := by omega
    rw [pairWorths, List.foldl_cons, List.foldl_cons, List.foldl_cons, hstep, foldl_pairWorths heven']

/-- **The pairs are worth what the digits are.** -/
theorem ofDigits_pairWorths {ds : List Nat} (heven : ds.length % 2 = 0) :
    ofDigits 256 (pairWorths ds) = ofDigits 16 ds := foldl_pairWorths heven 0

/-- The number of bytes that are shown of a number. -/
def byteCount (v : Nat) : Nat := (max 8 (digits 16 v).length + 1) / 2

/-- Padding to eight digits and then to an even number of them is padding to twice the number of bytes. -/
theorem evened_paddedHex (v : Nat) :
    evened (paddedHex v) = (padded 16 (2 * byteCount v) v).map digitChar := by
  show evened (Text.padLeft 8 '0' (digitsText 16 v)) = _
  rw [padLeft_digitsText, evened, List.length_map, padded, padded, List.length_append,
    List.length_replicate]
  split
  · rename_i hodd
    -- one zero more than eight digits have
    have hcount : 2 * byteCount v - (digits 16 v).length = 8 - (digits 16 v).length + 1 := by
      unfold byteCount
      omega
    rw [hcount, List.replicate_succ]
    rfl
  · rename_i heven
    have hcount : 2 * byteCount v - (digits 16 v).length = 8 - (digits 16 v).length := by
      unfold byteCount
      omega
    rw [hcount]

/-- A number has at most `2 * k` hexadecimal digits if it has at most `k` bytes. -/
theorem length_digits_hex_le_iff {v k : Nat} (hk : 0 < k) :
    (digits 16 v).length ≤ 2 * k ↔ (Nat.digits 256 v).length ≤ k := by
  rw [length_digits_le_iff (by decide) (by omega), Nat.digits_length_le_iff (by decide), Nat.pow_mul]

theorem byteCount_eq (v : Nat) : byteCount v = max 4 (Nat.digits 256 v).length := by
  have hle : ∀ k, 4 ≤ k → (byteCount v ≤ k ↔ max 4 (Nat.digits 256 v).length ≤ k) := by
    intro k hk
    rw [Nat.max_le, ← length_digits_hex_le_iff (by omega)]
    unfold byteCount
    omega
  have hfour : 4 ≤ byteCount v := by
    unfold byteCount
    omega
  exact Nat.le_antisymm ((hle _ (Nat.le_max_left _ _)).2 (Nat.le_refl _)) ((hle _ hfour).1 (Nat.le_refl _))

/-- **The bytes of a number** are as many as it needs, and at least four. -/
theorem exists_bytes (v : Nat) : ∃ bs : List Nat, List.Forall₂ IsByte (bigEndian v) bs ∧
    (∀ b ∈ bs, b < 256) ∧ ofDigits 256 bs = v ∧ bs.length = max 4 (Nat.digits 256 v).length := by
  have hlen : (padded 16 (2 * byteCount v) v).length = 2 * byteCount v := by
    refine length_padded ?_
    unfold byteCount
    omega
  have heven : (padded 16 (2 * byteCount v) v).length % 2 = 0 := by omega
  have hlt : ∀ d ∈ padded 16 (2 * byteCount v) v, d < 16 := lt_of_mem_padded (by decide)
  refine ⟨pairWorths (padded 16 (2 * byteCount v) v), ?_, lt_of_mem_pairWorths hlt, ?_, ?_⟩
  · rw [bigEndian, evened_paddedHex]
    exact forall₂_pairs heven hlt
  · rw [ofDigits_pairWorths heven, ofDigits_padded]
  · rw [length_pairWorths, hlen, Nat.mul_div_cancel_left _ Nat.two_pos, byteCount_eq]

/-- **The bytes lose nothing.**  The bytes of a number are texts of two hexadecimal digits in upper case.
    Read from the most significant one on, or, in the other order, from the least significant one on, they
    are digits in radix 256 that are worth the number.  There are as many of them as the number needs, but
    at least four, so that beyond four the first one is not zero. -/
theorem bytes_lose_nothing (v : Nat) :
    ∃ bs : List Nat, List.Forall₂ IsByte (bigEndian v) bs ∧
      List.Forall₂ IsByte (littleEndian v) bs.reverse ∧
      ofDigits 256 bs = v ∧ Nat.ofDigits 256 bs.reverse = v ∧
      (bigEndian v).length = max 4 (Nat.digits 256 v).length ∧
      (littleEndian v).length = max 4 (Nat.digits 256 v).length ∧
      (4 < bs.length → bs.head? ≠ some 0) := by
  obtain ⟨bs, hbytes, hlt, hworth, hlen⟩ := exists_bytes v
  have hbig : (bigEndian v).length = max 4 (Nat.digits 256 v).length := hbytes.length_eq.trans hlen
  refine ⟨bs, hbytes, List.forall₂_reverse_iff.2 hbytes, hworth, ?_, hbig, ?_, ?_⟩
  · rw [← ofDigits_eq]
    exact hworth
  · rw [littleEndian, List.length_reverse]
    exact hbig
  · intro hmore hhead
    obtain ⟨bs', rfl⟩ := List.head?_eq_some_iff.1 hhead
    -- without the zero there would be fewer bytes than the number needs
    have hworth' : ofDigits 256 bs' = v := by
      rw [← hworth, ofDigits, ofDigits, List.foldl_cons, Nat.zero_mul]
    have hfew : (Nat.digits 256 v).length ≤ bs'.length := by
      rw [Nat.digits_length_le_iff (by decide), ← hworth']
      exact ofDigits_lt fun b hb => hlt b (List.mem_cons_of_mem _ hb)
    rw [List.length_cons] at hmore hlen
    omega

/-- An odd number of digits, and more than eight: a zero in front makes them five bytes. -/
example : bigEndian 0x123456789 = ["01", "23", "45", "67", "89"].map String.toList ∧
    littleEndian 0x123456789 = ["89", "67", "45", "23", "01"].map String.toList := by
  decide +kernel

/-! ## Bits -/

theorem word_lt (v : Int) : word v < 2 ^ 32 := by
  unfold word
  omega

theorem word_eq (v : Int) : (word v : Int) = v % 2 ^ 32 := by
  unfold word
  omega

/-- **Bits below bit 32** are the same in a value and in its low 32 bits, also below zero. -/
theorem word_bit (v : Int) {i : Nat} (hi : i < 32) : ((word v / 2 ^ i % 2 : Nat) : Int) = v / 2 ^ i % 2 := by
  obtain ⟨k, hk⟩ : ∃ k, 32 = i + (k + 1) := ⟨31 - i, by omega⟩
  have hne : (2 : Int) ^ i ≠ 0 := by positivity
  have hpow : (2 : Int) ^ 32 = 2 ^ i * (2 * 2 ^ k) := by
    rw [hk, pow_add, pow_succ, mul_comm (2 ^ k) 2]
  -- what is cut off is a multiple of the bit behind this one
  have hsplit : v = word v + 2 ^ i * (2 * (2 ^ k * (v / 2 ^ 32))) :=
    calc v = v % 2 ^ 32 + 2 ^ 32 * (v / 2 ^ 32) := (Int.emod_add_mul_ediv v (2 ^ 32)).symm
      _ = word v + 2 ^ i * (2 * 2 ^ k) * (v / 2 ^ 32) := by rw [word_eq, ← hpow]
      _ = word v + 2 ^ i * (2 * (2 ^ k * (v / 2 ^ 32))) := by ring
  conv_rhs => rw [hsplit, Int.add_mul_ediv_left _ _ hne, Int.add_mul_emod_self_left]
  push_cast
  rfl

theorem bitRow_eq (v : Int) : bitRow v = (padded 2 32 (word v)).map digitChar := padLeft_digitsText

theorem length_padded_word (v : Int) : (padded 2 32 (word v)).length = 32 :=
  length_padded ((length_digits_le_iff (by decide) (by decide)).2 (word_lt v))

theorem length_bitRow (v : Int) : (bitRow v).length = 32 := by
  rw [bitRow_eq, List.length_map, length_padded_word]

/-- The row consists of binary digits, and they are worth the low 32 bits. -/
theorem digits_bitRow (v : Int) : Digits .binary (bitRow v) (word v) := by
  have hlt : ∀ d ∈ padded 2 32 (word v), d < 2 := lt_of_mem_padded (by decide)
  refine ⟨padded 2 32 (word v), ?_, ?_, hlt, ?_⟩
  · rw [← List.length_pos_iff, length_padded_word]
    decide
  · rw [bitRow_eq, List.forall₂_map_right_iff, List.forall₂_same]
    intro d hd
    exact isDigit_iff.2 (digitValue?_digitChar d (Nat.lt_of_lt_of_le (hlt d hd) (by decide)))
  · show word v = Nat.ofDigits 2 _
    rw [← ofDigits_eq, ofDigits_padded]

/-- **The row has the bits from the last to the first.** -/
theorem getElem?_bitRow (v : Int) {i : Nat} (hi : i < 32) :
    (bitRow v)[31 - i]? = some (digitChar (word v / 2 ^ i % 2)) := by
  have hlt : ∀ d ∈ padded 2 32 (word v), d < 2 := lt_of_mem_padded (by decide)
  have hi' : i < (padded 2 32 (word v)).length := by
    rw [length_padded_word]
    exact hi
  have hget := getElem?_of_ofDigits hlt hi'
  rw [length_padded_word, ofDigits_padded] at hget
  rw [bitRow_eq, List.getElem?_map, hget]
  rfl

theorem getElem?_bitRow_eq_one_iff (v : Int) {i : Nat} (hi : i < 32) :
    (bitRow v)[31 - i]? = some '1' ↔ v / 2 ^ i % 2 = 1 := by
  have hone : ∀ d < 2, digitChar d = '1' ↔ d = 1 := by decide
  rw [getElem?_bitRow v hi, Option.some.injEq, hone _ (Nat.mod_lt _ Nat.two_pos), ← word_bit v hi]
  exact Int.natCast_inj.symm

end View

/-! ## Registers -/

namespace Register

variable {v bit : Int} {r : Register}

/-- A bit is reported as set if it is one of the 32 and odd where the value is shifted to it. -/
theorem isSet_iff : isSet v bit = true ↔ 0 ≤ bit ∧ bit ≤ 31 ∧ v / 2 ^ bit.toNat % 2 = 1 := by
  simp only [isSet, Bool.and_eq_true, decide_eq_true_eq]
  constructor
  · rintro ⟨⟨h0, h32⟩, hodd⟩
    rw [← View.word_bit v (by omega), ← Nat.shiftRight_eq_div_pow, hodd]
    exact ⟨h0, by omega, rfl⟩
  · rintro ⟨h0, h31, hodd⟩
    rw [← View.word_bit v (by omega), ← Nat.shiftRight_eq_div_pow] at hodd
    exact ⟨⟨h0, by omega⟩, by exact_mod_cast hodd⟩

/-- Whether a list tells of each bit of a register, in ascending order and with its own label, if it is set
    in a value: it is if it has a place in the row and there is a one, and that is if it is one of the 32
    and the value, divided by its power of two and rounded down, is odd. -/
structure Reports (v : Int) (r : Register) (states : List BitState) : Prop where
  entries : (states.map fun s => (s.bit, (⟨s.label, s.doc⟩ : BitLabel))).Perm r
  ascending : (states.map (·.bit)).Pairwise (· < ·)
  inRow : ∀ s ∈ states, s.isSet = true ↔
    0 ≤ s.bit ∧ s.bit ≤ 31 ∧ (View.bitRow v)[(31 - s.bit).toNat]? = some '1'
  isOdd : ∀ s ∈ states, s.isSet = true ↔ 0 ≤ s.bit ∧ s.bit ≤ 31 ∧ v / 2 ^ s.bit.toNat % 2 = 1

/-- The bits of a register, each of them once, are strictly ascending when they are sorted. -/
theorem pairwise_sorted (hkeys : (r.map Prod.fst).Nodup) :
    ((sorted r).map Prod.fst).Pairwise (· < ·) := by
  have hle : (sorted r).Pairwise fun a b => a.1 ≤ b.1 := by
    rw [sorted_eq_mergeSort]
    exact (List.pairwise_mergeSort trans_byBit total_byBit r).imp of_decide_eq_true
  have hne : ((sorted r).map Prod.fst).Nodup := ((sorted_perm r).map Prod.fst).nodup_iff.2 hkeys
  rw [List.pairwise_map]
  exact hle.imp₂ (fun a b hab hne => lt_of_le_of_ne hab hne) (List.pairwise_map.1 hne)

theorem reports_describe (hkeys : (r.map Prod.fst).Nodup) (v : Int) : Reports v r (describe v r) := by
  have hisOdd : ∀ s ∈ describe v r, s.isSet = true ↔
      0 ≤ s.bit ∧ s.bit ≤ 31 ∧ v / 2 ^ s.bit.toNat % 2 = 1 := by
    intro s hs
    obtain ⟨e, -, rfl⟩ := List.mem_map.1 hs
    exact isSet_iff
  have hentries : ((describe v r).map fun s => (s.bit, (⟨s.label, s.doc⟩ : BitLabel))) = sorted r := by
    rw [describe, List.map_map]
    exact List.map_id _
  have hbits : (describe v r).map (·.bit) = (sorted r).map Prod.fst := by
    rw [describe, List.map_map]
    rfl
  refine ⟨hentries ▸ sorted_perm r, hbits ▸ pairwise_sorted hkeys, fun s hs => ?_, hisOdd⟩
  rw [hisOdd s hs]
  refine and_congr_right fun h0 => and_congr_right fun h31 => ?_
  have hplace : (31 - s.bit).toNat = 31 - s.bit.toNat := by omega
  rw [hplace]
  exact (View.getElem?_bitRow_eq_one_iff v (by omega)).symm

end Register

namespace Registers

/-- **The bit row and the registers agree.**  The row of any value has 32 binary digits, which are worth the
    value modulo `2 ^ 32`.  The report on registers has the same names in the same order, and for each
    register just its bits. -/
theorem bits_agree (v : Int) {rs : Registers} (hkeys : ∀ e ∈ rs, (e.2.map Prod.fst).Nodup) :
    (View.bitRow v).length = 32 ∧
      (∃ w : Nat, (w : Int) = v % 2 ^ 32 ∧ Digits .binary (View.bitRow v) w) ∧
      List.Forall₂ (fun e s => s.1 = e.1 ∧ Register.Reports v e.2 s.2) rs (describe v rs) := by
  refine ⟨View.length_bitRow v, ⟨View.word v, View.word_eq v, View.digits_bitRow v⟩, ?_⟩
  rw [describe, List.forall₂_map_right_iff, List.forall₂_same]
  intro e he
  exact ⟨rfl, Register.reports_describe (hkeys e he) v⟩

/-- A value below zero, and a register that names its bits out of order, two of them not among the 32. -/
theorem bits_agree_below_zero :
    let b : Register := [(31, ⟨"top", none⟩), (2, ⟨"off", some "clear"⟩), (40, ⟨"far", none⟩),
      (-1, ⟨"none", none⟩), (0, ⟨"on", none⟩)]
    let rs : Registers := [("B", b), ("A", [])]
    (∀ e ∈ rs, (e.2.map Prod.fst).Nodup) ∧
      View.bitRow (-5) = "11111111111111111111111111111011".toList ∧
      describe (-5) rs = [("B", [⟨-1, "none", none, false⟩, ⟨0, "on", none, true⟩,
        ⟨2, "off", some "clear", false⟩, ⟨31, "top", none, true⟩, ⟨40, "far", none, false⟩]), ("A", [])] ∧
      (∃ w : Nat, (w : Int) = -5 % 2 ^ 32 ∧ Digits .binary (View.bitRow (-5)) w) ∧
      List.Forall₂ (fun e s => s.1 = e.1 ∧ Register.Reports (-5) e.2 s.2) rs (describe (-5) rs) := by
  intro b rs
  have hkeys : ∀ e ∈ rs, (e.2.map Prod.fst).Nodup := by decide
  obtain ⟨-, hworth, hreports⟩ := bits_agree (-5) hkeys
  exact ⟨hkeys, by decide +kernel, by decide +kernel, hworth, hreports⟩

end Registers

end Respell
