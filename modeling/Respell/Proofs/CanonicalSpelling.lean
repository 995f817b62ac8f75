/-
  The one spelling that is written.

  A number is written in one way in each base, and read in many: the letter of the marker and the
  hexadecimal digits may be in either case, and there may be zeros in front.  This file says which of
  these spellings is the written one, without writing it.

  1. **Digits** (`digits_ofDigits`).  The digits of what some digits are worth are the same digits,
     without the zeros in front that are not needed.  Together with `ofDigits_digits` this makes digits
     and numbers inverse, up to those zeros, in every radix and at any length.

  2. **The canonical spelling** of a numeral (`Numeral.canonical`) has its marker in lower case, its
     digits in upper case and no zeros in front that are not needed.  It is never longer than the
     numeral, so the decimal limit never forbids it.

  3. **The law** (`Numeral.canonical_spelling`).  What is written reads back, and is found whole by the
     scan.  What is read is written in its canonical spelling.
-/
import Respell.Proofs.Grammar

namespace Respell

/-! ## Digits -/

/-- A list without the members `z` at its front, of which the last member stays in any case. -/
def trimmed [DecidableEq α] (z : α) : List α → List α
  | a :: b :: l => if a = z then trimmed z (b :: l) else a :: b :: l
  | l => l

example : trimmed '0' ['0', '0', '7', '0'] = ['7', '0'] ∧ trimmed '0' ['0', '0'] = ['0'] := by decide

theorem length_trimmed_le [DecidableEq α] (z : α) (l : List α) : (trimmed z l).length ≤ l.length := by
  fun_induction trimmed z l with
  | case1 b l ih => exact Nat.le_succ_of_le ih
  | case2 => exact Nat.le_refl _
  | case3 => exact Nat.le_refl _

/-- Lists that are alike member by member are so without their fronts. -/
theorem forall₂_trimmed [DecidableEq α] [DecidableEq β] {R : α → β → Prop} {z : α} {w : β}
    {as : List α} {bs : List β} (h : List.Forall₂ R as bs) (hz : ∀ a b, R a b → (a = z ↔ b = w)) :
    List.Forall₂ R (trimmed z as) (trimmed w bs) := by
  induction h with
  | nil => exact .nil
  | @cons a b as bs hab htail ih =>
    cases htail with
    | nil => exact .cons hab .nil
    | cons hab' htail =>
      rw [trimmed, trimmed]
      by_cases ha : a = z
      · rw [if_pos ha, if_pos ((hz a b hab).1 ha)]
        exact ih
      · rw [if_neg ha, if_neg (mt (hz a b hab).2 ha)]
        exact .cons hab (.cons hab' htail)

/-- One more digit behind a number is one more digit behind its digits. -/
theorem digitsOnto_mul_add {radix n d : Nat} (hr : 1 < radix) (hn : 0 < n) (hd : d < radix)
    (ds : List Nat) : digitsOnto radix (n * radix + d) ds = digitsOnto radix n (d :: ds) := by
  have hge : radix ≤ n * radix := Nat.le_mul_of_pos_left radix hn
  have hdiv : (n * radix + d) / radix = n := by
    rw [Nat.add_comm, Nat.add_mul_div_right _ _ (by omega), Nat.div_eq_of_lt hd, Nat.zero_add]
  have hmod : (n * radix + d) % radix = d := by
    rw [Nat.add_comm, Nat.add_mul_mod_self_right, Nat.mod_eq_of_lt hd]
  rw [digitsOnto, dif_neg (by omega), hdiv, hmod]

/-- Digits behind a number are digits behind its digits. -/
theorem digitsOnto_foldl {radix n : Nat} {ds : List Nat} (hr : 1 < radix) (hn : 0 < n)
    (hds : ∀ d ∈ ds, d < radix) (es : List Nat) :
    digitsOnto radix (ds.foldl (fun n d => n * radix + d) n) es = digitsOnto radix n (ds ++ es) := by
  induction ds generalizing n with
  | nil => rfl
  | cons d ds ih =>
    obtain ⟨hd, hds⟩ := List.forall_mem_cons.1 hds
    have hpos : 0 < n * radix + d := Nat.add_pos_left (Nat.mul_pos hn (by omega)) d
    rw [List.foldl_cons, ih hpos hds, digitsOnto_mul_add hr hn hd]
    rfl

/-- **Digits come back from what they are worth**, without the zeros in front that are not needed. -/
theorem digits_ofDigits {radix : Nat} {ds : List Nat} (hr : 1 < radix) (hds : ∀ d ∈ ds, d < radix)
    (hne : ds ≠ []) : digits radix (ofDigits radix ds) = trimmed 0 ds := by
  fun_induction trimmed 0 ds with
  | case1 d ds ih =>
    have hzero : ofDigits radix (0 :: d :: ds) = ofDigits radix (d :: ds) := by
      simp [ofDigits]
    rw [hzero]
    exact ih (List.forall_mem_cons.1 hds).2 (List.cons_ne_nil _ _)
  | case2 d d' ds hd =>
    obtain ⟨hlt, hds⟩ := List.forall_mem_cons.1 hds
    rw [ofDigits, List.foldl_cons, Nat.zero_mul, Nat.zero_add, digits,
      digitsOnto_foldl hr (Nat.pos_of_ne_zero hd) hds, digitsOnto, dif_pos (.inl hlt),
      List.append_nil]
  | case3 ds hshort =>
    cases ds with
    | nil => exact absurd rfl hne
    | cons d ds =>
      cases ds with
      | nil =>
        have hlt : d < radix := hds d List.mem_cons_self
        rw [ofDigits, List.foldl_cons, Nat.zero_mul, Nat.zero_add, List.foldl_nil, digits, digitsOnto,
          dif_pos (.inl hlt)]
      | cons d' ds => exact absurd rfl (hshort d d' ds)

namespace Numeral

variable {b : Base} {c : Char} {d n v : Nat} {s t : Text}

/-! ## Digits as text -/

/-- The digit that is written is the one in upper case, and zero has one character only. -/
theorem digitChar_of_isDigit (h : IsDigit d c) : digitChar d = c.toUpper ∧ (d = 0 ↔ c = '0') := by
  have hd : d < 16 := by
    rcases h with h | h <;> exact (List.getElem?_eq_some_iff.1 h).1
  -- sixteen digits, each in both cases; the characters themselves would be too many to try
  have hall : ∀ d < 16, ∀ cs ∈ ["0123456789abcdef".toList, "0123456789ABCDEF".toList],
      cs[d]?.all fun c => digitChar d = c.toUpper ∧ (d = 0 ↔ c = '0') := by
    decide +kernel
  have hcase : ∀ cs ∈ ["0123456789abcdef".toList, "0123456789ABCDEF".toList], cs[d]? = some c →
      digitChar d = c.toUpper ∧ (d = 0 ↔ c = '0') := by
    intro cs hcs hc
    have hboth := hall d hd cs hcs
    rwa [hc, Option.all_some, decide_eq_true_iff] at hboth
  rcases h with h | h
  · exact hcase _ List.mem_cons_self h
  · exact hcase _ (List.mem_cons_of_mem _ List.mem_cons_self) h

theorem map_digitChar {ds : List Nat} (h : List.Forall₂ IsDigit ds t) :
    ds.map digitChar = t.map Char.toUpper := by
  induction h with
  | nil => rfl
  | cons hd _ ih => rw [List.map_cons, List.map_cons, (digitChar_of_isDigit hd).1, ih]

/-- **The digits of a number** are those of any of its spellings, in upper case and without the zeros in
    front that are not needed. -/
theorem digitsText_of_digits (h : Digits b t v) :
    digitsText b.radix v = (trimmed '0' t).map Char.toUpper := by
  obtain ⟨ds, hne, hds, hlt, rfl⟩ := h
  rw [← ofDigits_eq, digitsText, digits_ofDigits b.one_lt_radix hlt hne]
  exact map_digitChar (forall₂_trimmed hds fun _ _ hd => (digitChar_of_isDigit hd).2)

/-! ## The canonical spelling -/

/-- A numeral of a base with its marker in lower case, its digits in upper case, and without the zeros
    in front that are not needed. -/
def canonical (b : Base) (t : Text) : Text :=
  (t.take b.marker.length).map Char.toLower ++
    (trimmed '0' (t.drop b.marker.length)).map Char.toUpper

example : canonical .hex "0X00fF".toList = "0xFF".toList := by decide
example : canonical .decimal "000".toList = "0".toList := by decide

theorem length_canonical_le (b : Base) (t : Text) : (canonical b t).length ≤ t.length := by
  have htrimmed := length_trimmed_le '0' (t.drop b.marker.length)
  rw [List.length_drop] at htrimmed
  rw [canonical, List.length_append, List.length_map, List.length_map, List.length_take]
  omega

theorem map_toLower_of_mem_letters (h : c ∈ letters b) : ['0', c].map Char.toLower = b.marker := by
  cases b with
  | decimal => cases h
  | hex | binary | octal => rcases List.mem_pair.1 h with rfl | rfl <;> decide

/-- A marker in front of the digits of a number is the canonical form of any of its spellings. -/
theorem marker_append_digitsText (h : Denotes b t v) :
    b.marker ++ digitsText b.radix v = canonical b t := by
  cases h with
  | @marked _ c t _ hc hds =>
    have hmarker := map_toLower_of_mem_letters hc
    have hlength : b.marker.length = 2 := by rw [← hmarker, List.length_map]; rfl
    rw [canonical, hlength, digitsText_of_digits hds, ← hmarker]
    rfl
  | decimal hds =>
    rw [canonical, digitsText_of_digits hds]
    rfl

/-- What is written is a marker with digits behind it, unless they are too many. -/
theorem write_of_length (h : b = .decimal → (digitsText b.radix n).length ≤ digitLimit) :
    write b n = .ok (b.marker ++ digitsText b.radix n) := by
  cases b with
  | decimal => exact if_neg (Nat.not_lt.2 (h rfl))
  | hex | binary | octal => rfl

/-- A text is a numeral of one base only. -/
theorem eq_of_denotes {b' : Base} {v' : Nat} (h : Denotes b t v) (h' : Denotes b' t v') : b' = b := by
  obtain ⟨ds, hsplit, -⟩ := denotes_iff.1 h
  obtain ⟨ds', hsplit', -⟩ := denotes_iff.1 h'
  exact (Prod.mk.inj (hsplit'.symm.trans hsplit)).1

/-- **What is read is written** in its canonical spelling. -/
theorem write_of_read (hread : read t = .ok (some v)) (h : Denotes b t v) :
    write b v = .ok (canonical b t) := by
  have hcanonical := marker_append_digitsText h
  rw [← hcanonical]
  refine write_of_length ?_
  rintro rfl
  -- a decimal numeral was not too long to be read, and its canonical spelling is no longer
  obtain ⟨b', h', hshort⟩ := read_eq_some_iff.1 hread
  obtain rfl := eq_of_denotes h h'
  have hle := length_canonical_le .decimal t
  rw [← hcanonical] at hle
  exact Nat.le_trans hle (hshort rfl)

/-- What is written is the one literal that the scan finds in it. -/
theorem scan_of_write (h : write b n = .ok s) : Literal.scan s = .ok [⟨s, 0, n⟩] := by
  rw [Literal.scan, Literal.readAll_eq, Literal.spellings,
    Literal.spellingsFrom_numeral 0 (isNumeral_write h), List.map_singleton,
    worth_of_read (read_write h)]
  rfl

/-- **Reading and writing are inverse, up to the canonical spelling.**
    (1) What is written of a number reads as that number, and a scan finds it whole and nothing else.
    (2) A text that is read is a numeral of exactly one base, and in this base its value is written:
        with the marker in lower case, the digits in upper case, and without the zeros in front that are
        not needed.
    (3) So two texts of one base are written alike if, and only if, they have the same value. -/
theorem canonical_spelling :
    (∀ (b : Base) (n : Nat) (s : Text), write b n = .ok s →
      read s = .ok (some n) ∧ Literal.scan s = .ok [⟨s, 0, n⟩]) ∧
    (∀ (t : Text) (n : Nat), read t = .ok (some n) →
      (∃! b, Denotes b t n) ∧ ∀ b, Denotes b t n → write b n = .ok (canonical b t)) ∧
    ∀ (b : Base) (t u : Text) (m n : Nat), read t = .ok (some m) → read u = .ok (some n) →
      Denotes b t m → Denotes b u n →
        (write b m = write b n ↔ m = n) ∧ (canonical b t = canonical b u ↔ m = n) := by
  refine ⟨fun b n s h => ⟨read_write h, scan_of_write h⟩, fun t n hread => ⟨?_, ?_⟩, ?_⟩
  · obtain ⟨b, h, -⟩ := read_eq_some_iff.1 hread
    exact ⟨b, h, fun _ h' => eq_of_denotes h h'⟩
  · exact fun _ h => write_of_read hread h
  · intro b t u m n ht hu hm hn
    have hwrite : write b m = write b n ↔ m = n := by
      constructor
      · intro hsame
        have hback := read_write (hsame ▸ write_of_read ht hm)
        rw [read_write (write_of_read ht hm)] at hback
        exact Option.some.inj (Except.ok.inj hback)
      · rintro rfl
        rfl
    refine ⟨hwrite, ?_⟩
    rw [← hwrite, write_of_read ht hm, write_of_read hu hn, Except.ok.injEq]

/-- A number with zeros in front and letters in either case, and another spelling of it. -/
theorem canonical_spelling_zeros :
    let t := "0X00fF".toList
    let u := "0xFF".toList
    write .hex 255 = .ok u ∧ read t = .ok (some 255) ∧ Denotes .hex t 255 ∧ canonical .hex t = u ∧
      Literal.scan u = .ok [⟨u, 0, 255⟩] ∧ canonical .hex t = canonical .hex u := by
  intro t u
  obtain ⟨hwritten, hread, hsame⟩ := canonical_spelling
  have ht : read t = .ok (some 255) := by decide
  have hu : read u = .ok (some 255) := by decide
  have hdt : Denotes .hex t 255 :=
    .marked (by decide) ⟨[0, 0, 15, 15], by decide,
      .cons (by decide) (.cons (by decide) (.cons (by decide) (.cons (by decide) .nil))), by decide,
      by decide⟩
  have hdu : Denotes .hex u 255 :=
    .marked (by decide) ⟨[15, 15], by decide, .cons (by decide) (.cons (by decide) .nil), by decide,
      by decide⟩
  have hwrite : write .hex (255 : Nat) = .ok (canonical .hex t) := (hread t 255 ht).2 .hex hdt
  exact ⟨hwrite, ht, hdt, by decide, (hwritten .hex 255 u hwrite).2,
    (hsame .hex t u 255 255 ht hu hdt hdu).2.2 rfl⟩

end Numeral

end Respell
