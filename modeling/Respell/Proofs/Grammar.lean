/-
  The grammar of literals.

  The scan tries one shape after another at each place and goes on behind what it finds; the reader
  takes a text apart by its first two characters.  This file says without either what a literal is and
  which ones a text has.

  1. **The grammar** (`Denotes`).  A marker with digits of its base, or decimal digits alone, and the
     value of the digits by their places.  The reader accepts these texts and no others
     (`read_eq_some_iff`), and refuses only decimal ones, for their length (`read_eq_error_iff`).

  2. **Soundness.**  Every spelling stands where the scan says (`exists_around_of_mem`), in order and
     apart from the others.  A decimal one is a whole word, and a marked one goes on as far as its digits
     do.

  3. **Completeness.**  A word that is a numeral is found whole, because the scan falls apart at its two
     ends.  The place where a marked literal could begin is passed over only inside another one
     (`exists_over_marked`), because the marked shape is tried first.
-/
import Respell.Proofs.Survival
import Mathlib.Data.Nat.Digits.Defs

namespace Respell

/-! ## The grammar -/

namespace Numeral

/-- The letters that end the marker of a base, none for decimal. -/
def letters : Base → List Char
  | .decimal => []
  | .hex => ['x', 'X']
  | .binary => ['b', 'B']
  | .octal => ['o', 'O']

/-- Whether a character is the digit worth `d`: the sixteen digits in order, the last six in either
    case. -/
def IsDigit (d : Nat) (c : Char) : Prop :=
  "0123456789abcdef".toList[d]? = some c ∨ "0123456789ABCDEF".toList[d]? = some c

/-- Whether a text is made of digits of a base, at least one, and what they are worth by their places:
    the last digit counts once, and each other one as many times the radix as the one behind it. -/
def Digits (b : Base) (t : Text) (v : Nat) : Prop :=
  ∃ ds : List Nat, ds ≠ [] ∧ List.Forall₂ IsDigit ds t ∧ (∀ d ∈ ds, d < b.radix) ∧
    v = Nat.ofDigits b.radix ds.reverse

/-- Whether a text is a numeral of a base, and its value. -/
inductive Denotes : Base → Text → Nat → Prop where
  | marked {b : Base} {c : Char} {t : Text} {v : Nat} :
    c ∈ letters b → Digits b t v → Denotes b ('0' :: c :: t) v
  | decimal {t : Text} {v : Nat} : Digits .decimal t v → Denotes .decimal t v

instance (d : Nat) (c : Char) : Decidable (IsDigit d c) := by
  unfold IsDigit
  infer_instance

variable {b : Base} {c : Char} {d v : Nat} {s t : Text}

theorem lt_of_digitValue? (h : digitValue? c = some d) : c.toNat < 128 := by
  by_contra hge
  have hnone : digitValue? c = none := by
    have hle : ∀ hi : Char, hi.toNat < 128 → ¬ c ≤ hi := fun hi hhi hc => by
      have hnat : c.toNat ≤ hi.toNat := hc
      omega
    rw [digitValue?, if_neg fun h => hle '9' (by decide) h.2,
      if_neg fun h => hle 'f' (by decide) h.2, if_neg fun h => hle 'F' (by decide) h.2]
  rw [hnone] at h
  cases h

theorem isDigit_iff : IsDigit d c ↔ digitValue? c = some d := by
  constructor
  · intro h
    have hd : d < 16 := by
      rcases h with h | h <;> exact (List.getElem?_eq_some_iff.1 h).1
    have hone : ∀ d < 16, ("0123456789abcdef".toList[d]?.bind digitValue? = some d) ∧
        "0123456789ABCDEF".toList[d]?.bind digitValue? = some d := by decide
    rcases h with h | h
    · have hlow := (hone d hd).1
      rwa [h] at hlow
    · have hup := (hone d hd).2
      rwa [h] at hup
  · intro h
    -- every digit is one of the first 128 characters, and these are looked at one by one
    have hall : ∀ n < 128, ∀ d ∈ digitValue? (Char.ofNat n), IsDigit d (Char.ofNat n) := by
      decide +kernel
    have hc := hall c.toNat (lt_of_digitValue? h) d
    rw [Char.ofNat_toNat] at hc
    exact hc h

theorem mem_letters_iff : c ∈ letters b ↔ markedBase? c = some b := by
  constructor
  · intro h
    cases b with
    | decimal => cases h
    | hex | binary | octal => rcases List.mem_pair.1 h with rfl | rfl <;> rfl
  · intro h
    unfold markedBase? at h
    split at h
    · rename_i hc
      obtain rfl := Option.some.inj h
      simpa [letters] using hc
    · split at h
      · rename_i hc
        obtain rfl := Option.some.inj h
        simpa [letters] using hc
      · split at h
        · rename_i hc
          obtain rfl := Option.some.inj h
          simpa [letters] using hc
        · cases h

/-- Adding digit by digit from the left gives the value by places. -/
theorem ofDigits_eq (r : Nat) (ds : List Nat) : Respell.ofDigits r ds = Nat.ofDigits r ds.reverse := by
  rw [Nat.ofDigits_eq_foldr, List.foldr_reverse, Respell.ofDigits]
  congr 1
  funext n d
  rw [Nat.mul_comm, Nat.add_comm]
  rfl

theorem forall₂_isDigit {ds : List Nat} (h : List.Forall₂ IsDigit ds t) :
    t.filterMap digitValue? = ds := by
  induction h with
  | nil => rfl
  | cons hd _ ih => rw [List.filterMap_cons, isDigit_iff.1 hd, ih]

theorem exists_of_hasDigit (h : b.hasDigit c = true) : ∃ d, IsDigit d c ∧ d < b.radix := by
  unfold Base.hasDigit at h
  cases hd : digitValue? c with
  | none => rw [hd] at h; cases h
  | some d =>
    rw [hd] at h
    exact ⟨d, isDigit_iff.2 hd, by simpa using h⟩

theorem hasDigit_of_isDigit (h : IsDigit d c) (hd : d < b.radix) : b.hasDigit c = true := by
  rw [Base.hasDigit, isDigit_iff.1 h]
  simpa using hd

/-- Digits of a base have worths below its radix. -/
theorem exists_forall₂_isDigit (h : ∀ c ∈ t, b.hasDigit c = true) :
    ∃ ds, List.Forall₂ IsDigit ds t ∧ ∀ d ∈ ds, d < b.radix := by
  induction t with
  | nil => exact ⟨[], .nil, by simp⟩
  | cons c t ih =>
    obtain ⟨hc, ht⟩ := List.forall_mem_cons.1 h
    obtain ⟨d, hd, hlt⟩ := exists_of_hasDigit hc
    obtain ⟨ds, hds, hall⟩ := ih ht
    exact ⟨d :: ds, .cons hd hds, List.forall_mem_cons.2 ⟨hlt, hall⟩⟩

theorem forall_hasDigit {ds : List Nat} (h : List.Forall₂ IsDigit ds t)
    (hds : ∀ d ∈ ds, d < b.radix) : ∀ c ∈ t, b.hasDigit c = true := by
  induction h with
  | nil => simp
  | cons hd _ ih =>
    obtain ⟨hlt, hds⟩ := List.forall_mem_cons.1 hds
    exact List.forall_mem_cons.2 ⟨hasDigit_of_isDigit hd hlt, ih hds⟩

/-- **Digits** are a run, and they are worth what the run is. -/
theorem digits_iff : Digits b t v ↔ isRun b t = true ∧ v = valueOf b t := by
  constructor
  · rintro ⟨ds, hne, hds, hlt, rfl⟩
    constructor
    · refine isRun_iff.2 ⟨?_, forall_hasDigit hds hlt⟩
      rintro rfl
      exact hne (List.forall₂_nil_right_iff.1 hds)
    · rw [valueOf, forall₂_isDigit hds, ofDigits_eq]
  · rintro ⟨hrun, rfl⟩
    obtain ⟨hne, hall⟩ := isRun_iff.1 hrun
    obtain ⟨ds, hds, hlt⟩ := exists_forall₂_isDigit hall
    refine ⟨ds, ?_, hds, hlt, ?_⟩
    · rintro rfl
      exact hne (List.forall₂_nil_left_iff.1 hds)
    · rw [valueOf, forall₂_isDigit hds, ofDigits_eq]

/-- **The grammar and the first two characters**: a text is a numeral of the base that they give it, if
    digits of that base are left. -/
theorem denotes_iff : Denotes b t v ↔
    ∃ ds, splitMarker t = (b, ds) ∧ isRun b ds = true ∧ v = valueOf b ds := by
  constructor
  · intro h
    cases h with
    | marked hc hds =>
      obtain ⟨hrun, hv⟩ := digits_iff.1 hds
      exact ⟨_, splitMarker_marked (mem_letters_iff.1 hc) _, hrun, hv⟩
    | decimal hds =>
      obtain ⟨hrun, hv⟩ := digits_iff.1 hds
      exact ⟨t, splitMarker_decimal hrun, hrun, hv⟩
  · rintro ⟨ds, hsplit, hrun, hv⟩
    have hds : Digits b ds v := digits_iff.2 ⟨hrun, hv⟩
    unfold splitMarker at hsplit
    split at hsplit
    · rename_i c x
      cases hc : markedBase? c with
      | some b' =>
        rw [hc] at hsplit
        obtain ⟨rfl, rfl⟩ := Prod.mk.inj hsplit
        exact .marked (mem_letters_iff.2 hc) hds
      | none =>
        rw [hc] at hsplit
        obtain ⟨rfl, rfl⟩ := Prod.mk.inj hsplit
        exact .decimal hds
    · obtain ⟨rfl, rfl⟩ := Prod.mk.inj hsplit
      exact .decimal hds

theorem isNumeral_of_denotes (h : Denotes b t v) : IsNumeral t := by
  obtain ⟨ds, hsplit, hrun, -⟩ := denotes_iff.1 h
  rwa [IsNumeral, hsplit]

/-- Only a decimal numeral has no marker, so it is all that is left of it. -/
theorem isRun_of_denotes_decimal (h : Denotes .decimal t v) : isRun .decimal t = true := by
  cases h with
  | marked hc _ => cases hc
  | decimal hds => exact (digits_iff.1 hds).1

/-- A text that is not marked is split into nothing and itself. -/
theorem eq_of_splitMarker_decimal {ds : Text} (h : splitMarker t = (.decimal, ds)) : ds = t := by
  unfold splitMarker at h
  split at h
  · rename_i c x
    cases hc : markedBase? c with
    | some b =>
      rw [hc] at h
      exact absurd (Prod.mk.inj h).1 (ne_decimal_of_markedBase? hc)
    | none =>
      rw [hc] at h
      exact (Prod.mk.inj h).2.symm
  · exact (Prod.mk.inj h).2.symm

/-- What is read of a text, by the base and the digits into which it is split. -/
theorem read_of_splitMarker {ds : Text} (h : splitMarker t = (b, ds)) :
    read t = if isRun b ds = true then
      if b = .decimal ∧ digitLimit < t.length then .error (.tooLongToRead t.length)
      else .ok (some (valueOf b ds))
    else .ok none := by
  have hlen : b = .decimal → ds.length = t.length := by
    rintro rfl
    rw [eq_of_splitMarker_decimal h]
  rw [read, h]
  dsimp only
  by_cases hb : b = .decimal
  · rw [hlen hb]
    cases isRun b ds <;> simp
  · cases isRun b ds <;> simp [hb]

/-- **What is accepted** is what the grammar says, with its value, but for decimal numerals over the
    limit. -/
theorem read_eq_some_iff : read t = .ok (some v) ↔
    ∃ b, Denotes b t v ∧ (b = .decimal → t.length ≤ digitLimit) := by
  constructor
  · intro h
    obtain ⟨b, ds, hsplit⟩ : ∃ b ds, splitMarker t = (b, ds) := ⟨_, _, rfl⟩
    rw [read_of_splitMarker hsplit] at h
    split at h
    · rename_i hrun
      split at h
      · cases h
      · rename_i hlong
        refine ⟨b, denotes_iff.2 ⟨ds, hsplit, hrun, ?_⟩, fun hb => ?_⟩
        · exact (Option.some.inj (Except.ok.inj h)).symm
        · by_contra hlt
          exact hlong ⟨hb, by omega⟩
    · cases h
  · rintro ⟨b, h, hshort⟩
    obtain ⟨ds, hsplit, hrun, rfl⟩ := denotes_iff.1 h
    rw [read_of_splitMarker hsplit, if_pos hrun, if_neg]
    rintro ⟨hb, hlong⟩
    have hle := hshort hb
    omega

/-- **What is refused** are the decimal numerals over the limit. -/
theorem read_eq_error_iff {e : NumeralError} : read t = .error e ↔
    ∃ v, Denotes .decimal t v ∧ digitLimit < t.length ∧ e = .tooLongToRead t.length := by
  constructor
  · intro h
    obtain ⟨b, ds, hsplit⟩ : ∃ b ds, splitMarker t = (b, ds) := ⟨_, _, rfl⟩
    rw [read_of_splitMarker hsplit] at h
    split at h
    · rename_i hrun
      split at h
      · rename_i hlong
        obtain ⟨rfl, hlt⟩ := hlong
        exact ⟨_, denotes_iff.2 ⟨ds, hsplit, hrun, rfl⟩, hlt, (Except.error.inj h).symm⟩
      · cases h
    · cases h
  · rintro ⟨v, h, hlong, rfl⟩
    obtain ⟨ds, hsplit, hrun, -⟩ := denotes_iff.1 h
    rw [read_of_splitMarker hsplit, if_pos hrun, if_pos ⟨rfl, hlong⟩]

end Numeral

/-! ## What is found -/

namespace Literal

open Numeral (IsNumeral IsDigit Denotes isRun letters markedBase? worth read)

/-- Whether a part of a text, between what stands in front and behind, is a maximal run of letters,
    digits and underscores. -/
structure IsWord (front s back : Text) : Prop where
  ne_nil : s ≠ []
  inside : ∀ c ∈ s, isWordChar c = true
  front : ∀ c, front.getLast? = some c → isWordChar c = false
  back : ∀ c, back.head? = some c → isWordChar c = false

variable {w : Bool} {b : Base} {c : Char} {pos : Nat} {s t u x : Text}

theorem isWordChar_of_mem_numeral (h : IsNumeral s) : ∀ c ∈ s, isWordChar c = true := by
  intro c hc
  rcases Numeral.isNumeral_iff.1 h with ⟨a, b, ds, rfl, ha, hds⟩ | hds
  · rcases List.mem_cons.1 hc with rfl | hc
    · decide
    · rcases List.mem_cons.1 hc with rfl | hc
      · exact isWordChar_of_markedBase? ha
      · exact isWordChar_of_hasDigit ((Numeral.isRun_iff.1 hds).2 c hc)
  · exact isWordChar_of_hasDigit ((Numeral.isRun_iff.1 hds).2 c hc)

theorem endsWord_eq (w : Bool) : ∀ u : Text, endsWord w u = (u.getLast?.map isWordChar).getD w
  | [] => rfl
  | c :: u => by
    rw [endsWord, endsWord_eq (isWordChar c) u, List.getLast?_cons]
    cases u.getLast? <;> rfl

theorem endsWord_eq_false_iff :
    endsWord false u = false ↔ ∀ c, u.getLast? = some c → isWordChar c = false := by
  rw [endsWord_eq]
  cases u.getLast? <;> simp

theorem beginsWord_eq_false_iff :
    beginsWord x = false ↔ ∀ c, x.head? = some c → isWordChar c = false := by
  cases x with
  | nil => simp [beginsWord]
  | cons c x => simp [beginsWord]

/-- A numeral ends in a word. -/
theorem endsWord_numeral (h : IsNumeral s) (w : Bool) : endsWord w s = true := by
  rw [endsWord_eq, List.getLast?_eq_some_getLast h.ne_nil]
  exact isWordChar_of_mem_numeral h _ (List.getLast_mem h.ne_nil)

/-- **Where a spelling stands.**  It is a part of the text, and it is what is found at its place. -/
theorem exists_around_of_mem {m : Spelling} (hm : m ∈ spellingsFrom w pos t) :
    ∃ u x, t = u ++ (m.text ++ x) ∧ m.start = pos + u.length ∧ m.text ≠ [] ∧
      lengthAt (endsWord w u) (m.text ++ x) = m.text.length := by
  -- by the steps of the scan; behind a literal it goes on after a word character
  fun_induction spellingsFrom w pos t with
  | case1 w pos => cases hm
  | case2 w pos c t h ih =>
    obtain ⟨u, x, rfl, hstart, hne, hlen⟩ := ih hm
    exact ⟨c :: u, x, rfl, by rw [hstart, List.length_cons]; omega, hne, hlen⟩
  | case3 w pos c t n h ih =>
    obtain ⟨hn, hnum⟩ := isNumeral_of_lengthAt h
    have hfirst : (c :: t.take n).length = n + 1 := List.length_take_of_le hn
    have hsplit : c :: t = (c :: t.take n) ++ t.drop n := by
      rw [List.cons_append, List.take_append_drop]
    rcases List.mem_cons.1 hm with rfl | hm
    · refine ⟨[], t.drop n, hsplit, rfl, List.cons_ne_nil _ _, ?_⟩
      show lengthAt w ((c :: t.take n) ++ t.drop n) = (c :: t.take n).length
      rw [← hsplit, h, hfirst]
    · obtain ⟨u, x, hdrop, hstart, hne, hlen⟩ := ih hm
      have hword : endsWord w (c :: t.take n) = true := endsWord_numeral hnum w
      refine ⟨(c :: t.take n) ++ u, x, ?_, ?_, hne, ?_⟩
      · rw [hsplit, hdrop, List.append_assoc]
      · rw [hstart, List.length_append, hfirst]
        omega
      · rwa [endsWord_append, hword]

/-- **The spellings come in order** and do not overlap. -/
theorem pairwise_spellingsFrom (w : Bool) (pos : Nat) (t : Text) :
    (spellingsFrom w pos t).Pairwise fun m m' => m.start + m.text.length ≤ m'.start := by
  fun_induction spellingsFrom w pos t with
  | case1 w pos => exact .nil
  | case2 w pos c t h ih => exact ih
  | case3 w pos c t n h ih =>
    refine List.pairwise_cons.2 ⟨fun m hm => ?_, ih⟩
    obtain ⟨u, x, -, hstart, -, -⟩ := exists_around_of_mem hm
    have hfirst : (c :: t.take n).length = n + 1 :=
      List.length_take_of_le (isNumeral_of_lengthAt h).1
    show pos + (c :: t.take n).length ≤ m.start
    omega

/-! ## What cannot be missed -/

/-- **A word that is a numeral** is found, with its own span. -/
theorem mem_spellings_of_isWord (h : IsWord u s x) (hs : IsNumeral s) :
    ⟨u.length, s⟩ ∈ spellings (u ++ (s ++ x)) := by
  have hu : endsWord false u = false := endsWord_eq_false_iff.2 h.front
  have hx : beginsWord x = false := beginsWord_eq_false_iff.2 h.back
  have hscan := spellingsFrom_alone 0 hu hs hx
  rw [Nat.zero_add] at hscan
  rw [spellings, hscan]
  simp

theorem markedLength_ne_zero (hc : markedBase? c = some b) (hs : isRun b s = true) (x : Text) :
    markedLength (('0' :: c :: s) ++ x) ≠ 0 := by
  obtain ⟨hne, hall⟩ := Numeral.isRun_iff.1 hs
  simp [markedLength, hc, List.takeWhile_append_of_pos hall, hne]

/-- **A place where a marked literal could begin** lies in a spelling that is found. -/
theorem exists_over_marked (w : Bool) (pos : Nat) {y : Text} (hy : markedLength y ≠ 0) :
    ∃ m ∈ spellingsFrom w pos (u ++ y),
      m.start ≤ pos + u.length ∧ pos + u.length < m.start + m.text.length := by
  -- by the steps of the scan of the whole text, until one of them reaches the place
  generalize ht : u ++ y = t
  fun_induction spellingsFrom w pos t generalizing u with
  | case1 w pos =>
    obtain ⟨-, rfl⟩ := List.append_eq_nil_iff.1 ht
    exact absurd rfl hy
  | case2 w pos c t h ih =>
    cases u with
    | nil =>
      -- the place is here, and then something would be found
      have hmarked : markedLength (c :: t) = 0 := (lengthAt_eq_zero_iff.1 h).1
      obtain rfl : y = c :: t := ht
      exact absurd hmarked hy
    | cons a u =>
      obtain ⟨-, ht⟩ := List.cons.inj ht
      obtain ⟨m, hm, hle, hlt⟩ := ih ht
      refine ⟨m, hm, ?_, ?_⟩ <;> rw [List.length_cons] <;> omega
  | case3 w pos c t n h ih =>
    have hn : n + 1 ≤ (c :: t).length := (isNumeral_of_lengthAt h).1
    have hfirst : (c :: t.take n).length = n + 1 := List.length_take_of_le hn
    by_cases hin : u.length < n + 1
    · refine ⟨⟨pos, c :: t.take n⟩, List.mem_cons_self, Nat.le_add_right _ _, ?_⟩
      show pos + u.length < pos + (c :: t.take n).length
      omega
    · -- the place is behind the literal
      have hdrop : u.drop (n + 1) ++ y = t.drop n := by
        rw [← List.drop_append_of_le_length (by omega), ht, List.drop_succ_cons]
      obtain ⟨m, hm, hle, hlt⟩ := ih hdrop
      rw [List.length_drop] at hle hlt
      exact ⟨m, List.mem_cons_of_mem _ hm, by omega, by omega⟩

/-! ## Literals and their spellings -/

theorem eq_of_map_worth : ∀ {ms ns : List Spelling},
    (ms.map fun m => (worth m.text).map fun _ => m) = ns.map .ok → ms = ns
  | [], [], _ => rfl
  | m :: ms, n :: ns, h => by
    rw [List.map_cons, List.map_cons, List.cons.injEq] at h
    obtain ⟨hm, hms⟩ := h
    cases hw : worth m.text with
    | error e => rw [hw] at hm; cases hm
    | ok v =>
      rw [hw] at hm
      obtain rfl : m = n := Except.ok.inj hm
      rw [eq_of_map_worth hms]

/-- The literals of a text are its spellings, read. -/
theorem spellings_of_scan {ls : List Literal} (h : scan t = .ok ls) :
    spellings t = ls.map fun l => ⟨l.start, l.spelling⟩ := by
  have hmap := scan_map (fun l => (⟨l.start, l.spelling⟩ : Spelling)) t
  rw [h] at hmap
  exact eq_of_map_worth (eq_map_ok_of_allOf hmap.symm)

/-- The part of a text between the two ends of a middle part. -/
theorem slice_around (u s x : Text) :
    (u ++ (s ++ x)).slice u.length (u.length + s.length : Nat) = s := by
  have hle : u.length + s.length ≤ (u ++ (s ++ x)).length := by
    rw [List.length_append, List.length_append]
    omega
  rw [Text.slice, Text.before, Text.place_natCast hle, Text.place_natCast (by omega),
    ← List.append_assoc, ← List.length_append, List.take_left, List.drop_left]

/-- **A decimal literal** is a word by itself. -/
theorem isWord_of_lengthAt (hs : isRun .decimal s = true)
    (h : lengthAt (endsWord false u) (s ++ x) = s.length) : IsWord u s x := by
  have hne : s ≠ [] := (Numeral.isRun_iff.1 hs).1
  have hmarked := markedLength_run hs h
  rw [lengthAt, hmarked] at h
  obtain ⟨hu, hx⟩ := alone_of_decimalLength hs h
  exact ⟨hne, fun c hc => isWordChar_of_hasDigit ((Numeral.isRun_iff.1 hs).2 c hc),
    endsWord_eq_false_iff.1 hu, beginsWord_eq_false_iff.1 hx⟩

/-- **A marked literal** takes all the digits of its base that follow. -/
theorem beginsRun_of_lengthAt {v : Nat} (hb : b ≠ .decimal) (hs : Denotes b s v)
    (h : lengthAt w (s ++ x) = s.length) : beginsRun b x = false := by
  cases hs with
  | decimal hds => exact absurd rfl hb
  | marked hc hds =>
    refine beginsRun_of_takeWhile ?_
    rw [List.cons_append, List.cons_append,
      lengthAt_marked (Numeral.mem_letters_iff.1 hc) (Numeral.digits_iff.1 hds).1] at h
    simpa using h

/-! ## The law -/

/-- **The scanner is sound and complete for the grammar.**
    (1) The reader accepts the texts of the grammar, with their values, and refuses decimal ones over
        the limit for their length.
    (2) Each literal that is found is the part of the text between its two ends, is not empty and reads
        as its value.  If it is decimal it is a whole word, and if it is marked no digit of its base
        follows.
    (3) The literals come in order and do not overlap.
    (4) Every word that is a numeral is found with its own span.
    (5) Every marked numeral anywhere in the text overlaps a literal that is found. -/
theorem scan_sound_and_complete {t : Text} {ls : List Literal} (h : scan t = .ok ls) :
    (∀ s, (∀ v, read s = .ok (some v) ↔ ∃ b, Denotes b s v ∧ (b = .decimal → s.length ≤ 4300)) ∧
      ∀ e, read s = .error e ↔
        ∃ v, Denotes .decimal s v ∧ 4300 < s.length ∧ e = .tooLongToRead s.length) ∧
    (∀ l ∈ ls, t.slice l.start l.stop = l.spelling ∧ l.start < l.stop ∧
      read l.spelling = .ok (some l.value) ∧
      ∃ u x, t = u ++ (l.spelling ++ x) ∧ l.start = u.length ∧
        (Denotes .decimal l.spelling l.value → IsWord u l.spelling x) ∧
        ∀ b, b ≠ .decimal → Denotes b l.spelling l.value →
          ∀ c, x.head? = some c → ¬ ∃ d, IsDigit d c ∧ d < b.radix) ∧
    ls.Pairwise (fun l m => l.stop ≤ m.start) ∧
    (∀ u s x b v, t = u ++ (s ++ x) → IsWord u s x → Denotes b s v →
      ∃ l ∈ ls, l.start = u.length ∧ l.spelling = s) ∧
    ∀ u s x b v, t = u ++ (s ++ x) → b ≠ .decimal → Denotes b s v →
      ∃ l ∈ ls, l.start < u.length + s.length ∧ u.length < l.stop := by
  have hspell := spellings_of_scan h
  have hback : ∀ m ∈ spellings t, ∃ l ∈ ls, l.start = m.start ∧ l.spelling = m.text := by
    intro m hm
    rw [hspell] at hm
    obtain ⟨l, hl, rfl⟩ := List.mem_map.1 hm
    exact ⟨l, hl, rfl, rfl⟩
  refine ⟨fun s => ⟨fun v => Numeral.read_eq_some_iff, fun e => Numeral.read_eq_error_iff⟩,
    fun l hl => ?_, ?_, ?_, ?_⟩
  · obtain ⟨hm, hworth⟩ := mem_of_scan h hl
    obtain ⟨u, x, rfl, hstart, hne, hlen⟩ := exists_around_of_mem hm
    rw [Nat.zero_add] at hstart
    dsimp only at hstart hne hlen
    have hpos : 0 < l.spelling.length := List.length_pos_iff.2 hne
    refine ⟨?_, ?_, ?_, u, x, rfl, hstart, ?_, ?_⟩
    · rw [stop, hstart]
      exact slice_around u l.spelling x
    · rw [stop]
      omega
    · rw [Numeral.read_eq_worth (isNumeral_of_mem_spellingsFrom hm), hworth]
      rfl
    · intro hdec
      exact isWord_of_lengthAt (Numeral.isRun_of_denotes_decimal hdec) hlen
    · rintro b hb hden c hc ⟨d, hd, hlt⟩
      have hrun := beginsRun_of_lengthAt hb hden hlen
      rw [beginsRun, hc, Option.any_some, Numeral.hasDigit_of_isDigit hd hlt] at hrun
      cases hrun
  · have hpair := pairwise_spellingsFrom false 0 t
    rw [← spellings, hspell, List.pairwise_map] at hpair
    exact hpair
  · rintro u s x b v rfl hword hden
    exact hback _ (mem_spellings_of_isWord hword (Numeral.isNumeral_of_denotes hden))
  · rintro u s x b v rfl hb hden
    cases hden with
    | decimal hds => exact absurd rfl hb
    | marked hc hds =>
      have hmarked := markedLength_ne_zero (Numeral.mem_letters_iff.1 hc)
        (Numeral.digits_iff.1 hds).1 x
      obtain ⟨m, hm, hle, hlt⟩ := exists_over_marked (u := u) false 0 hmarked
      obtain ⟨l, hl, hstart, hspelling⟩ := hback m hm
      refine ⟨l, hl, ?_, ?_⟩
      · rw [hstart, List.length_cons]
        omega
      · rw [stop, hstart, hspelling]
        omega

/-- A marked literal in the middle of a word, whose digits end before the word does, and a decimal one
    with zeros in front.  What is left of the word, and a digit in another word, are no literals. -/
theorem scan_sound_and_complete_inside_word :
    let t := "é0b1_0B102 a1;007".toList
    let ls : List Literal := [⟨"0b1".toList, 1, 1⟩, ⟨"0B10".toList, 5, 2⟩, ⟨"007".toList, 14, 7⟩]
    scan t = .ok ls ∧ Text.slice t 5 9 = "0B10".toList ∧
      Denotes .binary "0B10".toList 2 ∧ (∃ l ∈ ls, l.start < 9 ∧ 5 < l.stop) ∧
      IsWord "é0b1_0B102 a1;".toList "007".toList [] ∧
      ∃ l ∈ ls, l.start = 14 ∧ l.spelling = "007".toList := by
  intro t ls
  have hscan : scan t = .ok ls := by decide +kernel
  obtain ⟨-, hsound, -, hwords, hmarked⟩ := scan_sound_and_complete hscan
  have htwo : Denotes .binary "0B10".toList 2 :=
    .marked (by decide) ⟨[1, 0], by decide, .cons (by decide) (.cons (by decide) .nil), by decide,
      by decide⟩
  have hseven : Denotes .decimal "007".toList 7 :=
    .decimal ⟨[0, 0, 7], by decide, .cons (by decide) (.cons (by decide) (.cons (by decide) .nil)),
      by decide, by decide⟩
  have hword : IsWord "é0b1_0B102 a1;".toList "007".toList [] :=
    ⟨by decide, List.all_eq_true.1 (by decide), endsWord_eq_false_iff.1 (by decide),
      beginsWord_eq_false_iff.1 (by decide)⟩
  refine ⟨hscan, (hsound ⟨"0B10".toList, 5, 2⟩ (by decide)).1, htwo, ?_, hword, ?_⟩
  · exact hmarked "é0b1_".toList "0B10".toList "2 a1;007".toList .binary 2 (by decide) (by decide)
      htwo
  · exact hwords _ _ _ .decimal 7 (by decide) hword hseven

end Literal

end Respell
