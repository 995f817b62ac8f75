/-
  Which literals survive a pass.

  A marked literal may stand inside a word, so what a pass writes in its place can run into the digits
  behind it, or stop being a literal.  This file says exactly when.

  1. **What is found at a place** (`shape_of_lengthAt`) is marked, and no digit of its base follows, or
     it is decimal, and no word character stands on either side.

  2. **Any text as pieces** (`Piece.Laid`).  Unlike spaced pieces, these may touch words.  A gap is
     passed over because of what stands in it, and of what follows it only the marker can matter; and
     one marker is as good as another (`Passes.marked`).

  3. **Into a marked base** a literal survives if no digit of that base follows it.  If one does, the
     literal that is found there is longer and worth more (`lt_valueOf_append`), whatever the others do,
     so the first of these shows in the values.

  4. **Into decimal** a literal survives if it stands alone: a decimal literal that is found stands
     alone, and the gaps stay (`Piece.Laid.spaced`).  Here the values may agree by chance.
-/
import Respell.Proofs.Cycling

namespace Respell

open Literal (Spelling spellings)
open Numeral (IsNumeral isRun markedBase? worth respelling)

/-! ## What it is to survive -/

namespace Literal

/-- Whether a text begins with a digit of a base. -/
def beginsRun (b : Base) (t : Text) : Bool := t.head?.any b.hasDigit

/-- Whether what stands beside a literal leaves it room to be written in a base. -/
def HasRoom (b : Base) (t : Text) (s : Spelling) : Prop :=
  match b with
  | .decimal => StandsAlone t s
  | b => beginsRun b (t.drop (s.start + s.text.length)) = false

instance (b : Base) (t : Text) (s : Spelling) : Decidable (HasRoom b t s) := by
  unfold HasRoom
  split <;> infer_instance

example : HasRoom .octal "0b18u".toList ⟨0, "0b1".toList⟩ ∧
    ¬ HasRoom .hex "0b18u".toList ⟨0, "0b1".toList⟩ := by decide

/-- The values of the literals of a text. -/
def values (t : Text) : Except NumeralError (List Nat) := (scan t).map (List.map value)

theorem values_eq (t : Text) : values t = allOf (((spellings t).map Spelling.text).map worth) :=
  scan_map_value t

end Literal

namespace Edit

/-- Where the replacements of edits in order come to stand; the text in front of `pos` has become one of
    the length `out`. -/
def landings (pos : Int) (out : Nat) : List Edit → List Spelling
  | [] => []
  | e :: es =>
    ⟨out + (e.start - pos).toNat, e.replacement⟩ ::
      landings e.stop (out + (e.start - pos).toNat + e.replacement.length) es

example : landings 0 0 [⟨1, 2, ['X', 'Y']⟩, ⟨3, 4, ['Z']⟩] = [⟨1, ['X', 'Y']⟩, ⟨4, ['Z']⟩] := by decide

end Edit

namespace Literal

variable {w : Bool} {b : Base} {c : Char} {g s y : Text}

/-! ## What is found at a place -/

theorem takeWhile_of_beginsRun (h : beginsRun b y = false) :
    y.takeWhile b.hasDigit = [] ∧ y.dropWhile b.hasDigit = y := by
  cases y with
  | nil => exact ⟨rfl, rfl⟩
  | cons c y =>
    have hc : b.hasDigit c = false := h
    simp [hc]

theorem beginsRun_of_takeWhile (h : y.takeWhile b.hasDigit = []) : beginsRun b y = false := by
  cases y with
  | nil => rfl
  | cons c y =>
    show b.hasDigit c = false
    by_contra hc
    simp [Bool.not_eq_false _ ▸ hc] at h

theorem hasDigit_zero (b : Base) : b.hasDigit '0' = true := by cases b <;> decide

/-- A marked literal takes all the digits of its base that follow. -/
theorem lengthAt_marked (hc : markedBase? c = some b) {ds : Text} (hds : isRun b ds = true)
    (w : Bool) (y : Text) :
    lengthAt w ('0' :: c :: (ds ++ y)) = ('0' :: c :: (ds ++ y.takeWhile b.hasDigit)).length := by
  obtain ⟨hne, hall⟩ := Numeral.isRun_iff.1 hds
  have hmarked : markedLength ('0' :: c :: (ds ++ y)) =
      (ds ++ y.takeWhile b.hasDigit).length + 2 := by
    simp [markedLength, hc, List.takeWhile_append_of_pos hall, hne]
  rw [lengthAt, hmarked]
  rfl

theorem marked_of_markedLength {t : Text} {n : Nat} (h : markedLength t = n + 1) :
    ∃ c b x, t = '0' :: c :: x ∧ markedBase? c = some b ∧ 1 < n := by
  unfold markedLength at h
  split at h
  · rename_i c ds
    cases hc : markedBase? c with
    | none => simp [hc] at h
    | some b =>
      refine ⟨c, b, ds, rfl, hc, ?_⟩
      simp only [hc] at h
      split at h
      · cases h
      · rename_i hne
        have hpos := List.length_pos_iff.2 (mt List.isEmpty_iff.2 hne)
        omega
  · cases h

/-- Decimal digits that are found whole do not look marked. -/
theorem markedLength_run (hs : isRun .decimal s = true) (h : lengthAt w (s ++ y) = s.length) :
    markedLength (s ++ y) = 0 := by
  obtain ⟨hne, hall⟩ := Numeral.isRun_iff.1 hs
  cases hm : markedLength (s ++ y) with
  | zero => rfl
  | succ n =>
    obtain ⟨c, b, x, hsplit, hc, hn⟩ := marked_of_markedLength hm
    rw [lengthAt, hm] at h
    obtain ⟨a, s, rfl⟩ := List.exists_cons_of_ne_nil hne
    cases s with
    | nil =>
      have hn0 : n = 0 := Nat.succ.inj h
      omega
    | cons d ds =>
      -- the letter of the marker would be a digit
      obtain ⟨-, hsplit⟩ := List.cons.inj hsplit
      obtain ⟨rfl, -⟩ := List.cons.inj hsplit
      rw [Numeral.markedBase?_of_hasDigit (hall d (by simp))] at hc
      cases hc

theorem alone_of_decimalLength (hs : isRun .decimal s = true)
    (h : decimalLength w (s ++ y) = s.length) : w = false ∧ beginsWord y = false := by
  obtain ⟨hne, hall⟩ := Numeral.isRun_iff.1 hs
  have hpos := List.length_pos_iff.2 hne
  rw [decimalLength, List.takeWhile_append_of_pos hall, List.dropWhile_append_of_pos hall] at h
  split at h
  · omega
  · rename_i hopen
    have hnone : y.takeWhile Base.decimal.hasDigit = [] := by simpa using h
    rw [(takeWhile_of_beginsRun (beginsRun_of_takeWhile hnone)).2] at hopen
    simpa using hopen

theorem isNumeral_of_lengthAt_append (hs : s ≠ []) (h : lengthAt w (s ++ y) = s.length) :
    IsNumeral s := by
  obtain ⟨n, hn⟩ := Nat.exists_eq_succ_of_ne_zero (mt List.length_eq_zero_iff.1 hs)
  have htake := (isNumeral_of_lengthAt (h.trans hn)).2
  rwa [← Nat.succ_eq_add_one, ← hn, List.take_left] at htake

/-- **What is found at a place** is marked, and no digit of its base follows, or it is decimal and
    stands between no word characters. -/
theorem shape_of_lengthAt (hs : s ≠ []) (h : lengthAt w (s ++ y) = s.length) :
    (∃ c b ds, s = '0' :: c :: ds ∧ markedBase? c = some b ∧ isRun b ds = true ∧
      beginsRun b y = false) ∨ (isRun .decimal s = true ∧ w = false ∧ beginsWord y = false) := by
  rcases Numeral.isNumeral_iff.1 (isNumeral_of_lengthAt_append hs h) with ⟨c, b, ds, rfl, hc, hds⟩ | hds
  · refine .inl ⟨c, b, ds, rfl, hc, hds, beginsRun_of_takeWhile ?_⟩
    rw [List.cons_append, List.cons_append, lengthAt_marked hc hds] at h
    simpa using h
  · right
    refine ⟨hds, alone_of_decimalLength hds ?_⟩
    rwa [lengthAt, markedLength_run hds h] at h

/-! ## Gaps -/

theorem lengthAt_eq_zero_iff : lengthAt w y = 0 ↔ markedLength y = 0 ∧ decimalLength w y = 0 := by
  unfold lengthAt
  cases markedLength y with
  | zero => simp
  | succ n => simp

/-- Whether a marked literal stands in front of a marker does not depend on the marker. -/
theorem markedLength_marked (hg : g ≠ []) (c c' : Char) (y y' : Text)
    (h : markedLength (g ++ '0' :: c :: y) = 0) : markedLength (g ++ '0' :: c' :: y') = 0 := by
  have hzero : markedBase? '0' = none := by decide
  match g, hg with
  | [a], _ => by_cases ha : a = '0' <;> simp [markedLength, ha, hzero]
  | a :: d :: ds, _ =>
    by_cases ha : a = '0'
    · subst ha
      simp only [markedLength, List.cons_append] at h ⊢
      cases hd : markedBase? d with
      | none => rfl
      | some b =>
        -- the digits of the literal in front would begin with the first of `ds` or with the zero
        simp only [hd] at h ⊢
        cases ds with
        | nil => simp [hasDigit_zero b] at h
        | cons e es => by_cases he : b.hasDigit e = true <;> simp_all
    · simp [markedLength, ha]

/-- Behind decimal digits in front of a marker the word goes on. -/
theorem beginsWord_dropWhile_marked {b' : Base} {c' : Char} (hc : markedBase? c = some b)
    (hc' : markedBase? c' = some b') (y y' : Text) :
    beginsWord ((g ++ '0' :: c :: y).dropWhile Base.decimal.hasDigit) =
      beginsWord ((g ++ '0' :: c' :: y').dropWhile Base.decimal.hasDigit) := by
  have hnext : ∀ {c : Char} {b : Base} (y : Text), markedBase? c = some b →
      beginsWord (('0' :: c :: y).dropWhile Base.decimal.hasDigit) = true := fun {c} {b} y hc => by
    have hno : Base.decimal.hasDigit c = false := by
      by_contra hd
      rw [Numeral.markedBase?_of_hasDigit (Bool.not_eq_false _ ▸ hd)] at hc
      cases hc
    simp [hasDigit_zero .decimal, hno, beginsWord, isWordChar_of_markedBase? hc]
  induction g with
  | nil => exact (hnext y hc).trans (hnext y' hc').symm
  | cons a g ih =>
    rw [List.cons_append, List.cons_append, List.dropWhile_cons, List.dropWhile_cons]
    split
    · exact ih
    · rfl

/-- **One marker is as good as another** for the gap in front of it. -/
theorem lengthAt_gap_marked {b' : Base} {c' : Char} (hg : g ≠ []) (hc : markedBase? c = some b)
    (hc' : markedBase? c' = some b') {y y' : Text} (h : lengthAt w (g ++ '0' :: c :: y) = 0) :
    lengthAt w (g ++ '0' :: c' :: y') = 0 := by
  obtain ⟨hmarked, hdecimal⟩ := lengthAt_eq_zero_iff.1 h
  refine lengthAt_eq_zero_iff.2 ⟨markedLength_marked hg c c' y y' hmarked, ?_⟩
  obtain ⟨a, g, rfl⟩ := List.exists_cons_of_ne_nil hg
  rw [decimalLength, beginsWord_dropWhile_marked hc hc' y y'] at hdecimal
  rw [decimalLength]
  split at hdecimal
  · rename_i hin
    rw [if_pos hin]
  · rename_i hin
    rw [if_neg hin]
    simp only [List.cons_append, List.takeWhile_cons, List.length_eq_zero_iff] at hdecimal ⊢
    split at hdecimal
    · cases hdecimal
    · rename_i ha
      rw [if_neg ha]

/-- A gap at whose end no word is open is passed over, whatever follows. -/
theorem lengthAt_gap_closed {w' : Bool} (hg : g ≠ []) (hclosed : endsWord w' g = false) (y y' : Text) :
    lengthAt w (g ++ y) = lengthAt w (g ++ y') := by
  obtain ⟨v, d, rfl⟩ := (List.eq_nil_or_concat g).resolve_left hg
  have hd : isWordChar d = false := by simpa [endsWord_append, endsWord] using hclosed
  have hword : ∀ x : Text, beginsWord (d :: x) = false := fun _ => hd
  rw [List.concat_eq_append, List.append_assoc, List.append_assoc, List.singleton_append,
    List.singleton_append, lengthAt_append (hword y), lengthAt_append (hword y')]

/-- Whether nothing is found in a gap with a text behind it, after a word character or not. -/
def Passes (w : Bool) : Text → Text → Prop
  | [], _ => True
  | c :: g, y => lengthAt w (c :: (g ++ y)) = 0 ∧ Passes (isWordChar c) g y

theorem Passes.spellingsFrom (h : Passes w g y) (pos : Nat) :
    spellingsFrom w pos (g ++ y) = Literal.spellingsFrom (endsWord w g) (pos + g.length) y := by
  induction g generalizing w pos with
  | nil => rfl
  | cons c g ih =>
    rw [List.cons_append, spellingsFrom_skip h.1, ih h.2, endsWord, List.length_cons]
    congr 1
    omega

theorem Passes.marked {b' : Base} {c' : Char} (hc : markedBase? c = some b)
    (hc' : markedBase? c' = some b') {y y' : Text} (h : Passes w g ('0' :: c :: y)) :
    Passes w g ('0' :: c' :: y') := by
  induction g generalizing w with
  | nil => trivial
  | cons a g ih =>
    exact ⟨lengthAt_gap_marked (g := a :: g) (List.cons_ne_nil a g) hc hc' h.1, ih h.2⟩

theorem Passes.closed (h : Passes w g y) (hclosed : endsWord w g = false) (y' : Text) :
    Passes w g y' := by
  induction g generalizing w with
  | nil => trivial
  | cons a g ih =>
    refine ⟨?_, ih h.2 hclosed⟩
    exact (lengthAt_gap_closed (g := a :: g) (List.cons_ne_nil a g) hclosed y' y).trans h.1

/-- A literal that is found at a place, in the scan. -/
theorem spellingsFrom_at (hs : s ≠ []) (h : lengthAt w (s ++ y) = s.length) (pos : Nat) :
    spellingsFrom w pos (s ++ y) = ⟨pos, s⟩ :: spellingsFrom true (pos + s.length) y := by
  obtain ⟨c, s, rfl⟩ := List.exists_cons_of_ne_nil hs
  have hlen : lengthAt w (c :: (s ++ y)) = s.length + 1 := h
  rw [List.cons_append, spellingsFrom_found hlen, List.take_left, List.drop_left]
  rfl

end Literal

/-! ## Digits behind a literal -/

theorem eq_zero_of_digitValue? {c : Char} (h : digitValue? c = some 0) : c = '0' := by
  unfold digitValue? at h
  split at h
  · rename_i hc
    have hlow : 48 ≤ c.toNat := hc.1
    have hval : c.toNat = 48 := by
      have := Option.some.inj h
      omega
    exact Char.ext (UInt32.toNat_inj.1 hval)
  · split at h
    · rename_i hc
      have hlow : 97 ≤ c.toNat := hc.1
      have := Option.some.inj h
      omega
    · split at h
      · rename_i hc
        have hlow : 65 ≤ c.toNat := hc.1
        have := Option.some.inj h
        omega
      · cases h

theorem le_foldl_digits {radix : Nat} (hr : 1 < radix) (n : Nat) (ds : List Nat) :
    n ≤ ds.foldl (fun n d => n * radix + d) n := by
  induction ds generalizing n with
  | nil => exact Nat.le_refl n
  | cons d ds ih =>
    have hle : n ≤ n * radix := Nat.le_mul_of_pos_right n (by omega)
    exact Nat.le_trans (by omega) (ih (n * radix + d))

namespace Numeral

/-- **Digits behind a numeral** make it worth more, unless the first of them is a zero. -/
theorem lt_valueOf_append {b : Base} {c : Char} (hc : b.hasDigit c = true) (hzero : c ≠ '0')
    (s x : Text) : valueOf b s < valueOf b (s ++ c :: x) := by
  obtain ⟨d, hd⟩ : ∃ d, digitValue? c = some d := by
    cases hd : digitValue? c with
    | none => rw [Base.hasDigit, hd] at hc; cases hc
    | some d => exact ⟨d, rfl⟩
  have hpos : d ≠ 0 := by
    rintro rfl
    exact hzero (eq_zero_of_digitValue? hd)
  rw [valueOf, valueOf, List.filterMap_append, List.filterMap_cons, hd, ofDigits, ofDigits,
    List.foldl_append, List.foldl_cons]
  generalize (s.filterMap digitValue?).foldl (fun n d => n * b.radix + d) 0 = n
  have hle : n ≤ n * b.radix := Nat.le_mul_of_pos_right n (Nat.lt_of_succ_lt b.one_lt_radix)
  exact Nat.lt_of_lt_of_le (by omega) (le_foldl_digits b.one_lt_radix (n * b.radix + d) _)

/-- If a number written in a marked base keeps its worth with the digits that follow, none do. -/
theorem beginsRun_of_worth {b : Base} (hb : b ≠ .decimal) {n : Nat} {r y : Text}
    (hr : write b n = .ok r) (hzero : y.head? ≠ some '0')
    (hworth : worth (r ++ y.takeWhile b.hasDigit) = .ok n) : Literal.beginsRun b y = false := by
  obtain ⟨c, hc, rfl⟩ := exists_marked_of_write hb hr
  cases y with
  | nil => rfl
  | cons d y =>
    show b.hasDigit d = false
    by_contra hd
    have hd : b.hasDigit d = true := Bool.not_eq_false _ ▸ hd
    have hall : isRun b (digitsText b.radix n ++ d :: y.takeWhile b.hasDigit) = true := by
      refine isRun_iff.2 ⟨by simp, List.forall_mem_append.2
        ⟨(isRun_iff.1 (isRun_digitsText b n)).2, List.forall_mem_cons.2 ⟨hd, ?_⟩⟩⟩
      exact fun e he => List.mem_takeWhile_imp he
    rw [List.takeWhile_cons_of_pos hd, List.cons_append, List.cons_append, worth,
      read_marked hc hall] at hworth
    have hlt := lt_valueOf_append hd (fun h => hzero (h ▸ rfl)) (digitsText b.radix n)
      (y.takeWhile b.hasDigit)
    rw [valueOf_digitsText] at hlt
    exact absurd (Except.ok.inj hworth) (Nat.ne_of_gt hlt)

end Numeral

/-! ## Any text as pieces -/

namespace Piece

open Literal (Spelling Passes spellings spellingsFrom lengthAt endsWord beginsWord beginsRun)

variable {w : Bool} {b : Base} {p : Piece} {last y : Text} {ps : List Piece} {rs : List Text}

/-- Whether the spelling of a piece is the first that is found in it with a text behind it, after a
    word character or not. -/
structure FoundIn (w : Bool) (p : Piece) (y : Text) : Prop where
  passes : Passes w p.gap (p.spelling ++ y)
  length : lengthAt (endsWord w p.gap) (p.spelling ++ y) = p.spelling.length
  ne_nil : p.spelling ≠ []

/-- Whether the spellings of pieces are what is found in their text, after a word character or not. -/
def Laid (w : Bool) (last : Text) : List Piece → Prop
  | [] => ∀ pos, spellingsFrom w pos last = []
  | p :: ps => p.FoundIn w (fill last ps) ∧ Laid true last ps

namespace FoundIn

theorem spellingsFrom (h : p.FoundIn w y) (pos : Nat) :
    Literal.spellingsFrom w pos (p.gap ++ (p.spelling ++ y)) =
      ⟨pos + p.gap.length, p.spelling⟩ ::
        Literal.spellingsFrom true (pos + p.gap.length + p.spelling.length) y := by
  rw [h.passes.spellingsFrom, Literal.spellingsFrom_at h.ne_nil h.length]

theorem isNumeral (h : p.FoundIn w y) : IsNumeral p.spelling :=
  Literal.isNumeral_of_lengthAt_append h.ne_nil h.length

/-- Behind a literal there is no zero, which is a digit of every base. -/
theorem head?_ne_zero (h : p.FoundIn w y) : y.head? ≠ some '0' := by
  intro hzero
  rcases Literal.shape_of_lengthAt h.ne_nil h.length with ⟨c, b, ds, -, -, -, hrun⟩ | ⟨-, -, hword⟩
  · rw [beginsRun, hzero, Option.any_some, Literal.hasDigit_zero] at hrun
    cases hrun
  · obtain ⟨c, y, rfl⟩ := List.exists_cons_of_ne_nil (List.ne_nil_of_mem (List.mem_of_head? hzero))
    obtain rfl := Option.some.inj hzero
    exact Bool.noConfusion (hword : Literal.isWordChar '0' = false)

/-- **A literal of a marked base in place of another** is found in the same place, with all the digits
    of that base that follow it. -/
theorem respelled (h : p.FoundIn w y) (hb : b ≠ .decimal) {n : Nat} {r : Text}
    (hr : Numeral.write b n = .ok r) (y' : Text) :
    FoundIn w ⟨p.gap, r ++ y'.takeWhile b.hasDigit⟩ (y'.dropWhile b.hasDigit) := by
  obtain ⟨c, hc, rfl⟩ := Numeral.exists_marked_of_write hb hr
  have hall : (Numeral.digitsText b.radix n ++ y'.takeWhile b.hasDigit) ++ y'.dropWhile b.hasDigit =
      Numeral.digitsText b.radix n ++ y' := by
    rw [List.append_assoc, List.takeWhile_append_dropWhile]
  constructor
  · show Passes w p.gap ('0' :: c ::
      ((Numeral.digitsText b.radix n ++ y'.takeWhile b.hasDigit) ++ y'.dropWhile b.hasDigit))
    rcases Literal.shape_of_lengthAt h.ne_nil h.length with
      ⟨c₀, b₀, ds, hshape, hc₀, -, -⟩ | ⟨-, hclosed, -⟩
    · have hpasses := h.passes
      rw [hshape] at hpasses
      exact hpasses.marked hc₀ hc
    · exact h.passes.closed hclosed _
  · show lengthAt (endsWord w p.gap) ('0' :: c ::
      ((Numeral.digitsText b.radix n ++ y'.takeWhile b.hasDigit) ++ y'.dropWhile b.hasDigit)) = _
    rw [hall, Literal.lengthAt_marked hc (Numeral.isRun_digitsText b n)]
    rfl
  · exact List.cons_ne_nil _ _

end FoundIn

/-- **Any text is made of pieces** whose spellings are what the scan finds. -/
theorem exists_laid (w : Bool) (pos : Nat) (t : Text) :
    ∃ ps last, t = fill last ps ∧ Laid w last ps := by
  -- by the steps of the scan; a step that finds nothing makes the first gap longer
  fun_induction spellingsFrom w pos t with
  | case1 w pos => exact ⟨[], [], rfl, fun pos => Literal.spellingsFrom_nil⟩
  | case2 w pos c t h ih =>
    obtain ⟨ps, last, rfl, hps⟩ := ih
    cases ps with
    | nil => exact ⟨[], c :: last, rfl, fun pos => (Literal.spellingsFrom_skip h).trans (hps (pos + 1))⟩
    | cons p ps =>
      refine ⟨⟨c :: p.gap, p.spelling⟩ :: ps, last, rfl, ⟨⟨h, hps.1.passes⟩, ?_, ?_⟩, hps.2⟩
      · exact hps.1.length
      · exact hps.1.ne_nil
  | case3 w pos c t n h ih =>
    obtain ⟨ps, last, hfill, hps⟩ := ih
    have hlen : (c :: t.take n).length = n + 1 :=
      List.length_take_of_le (Literal.isNumeral_of_lengthAt h).1
    have htext : c :: t = (c :: t.take n) ++ fill last ps := by
      rw [← hfill, List.cons_append, List.take_append_drop]
    refine ⟨⟨[], c :: t.take n⟩ :: ps, last, htext, ⟨trivial, ?_, List.cons_ne_nil _ _⟩, hps⟩
    show lengthAt w ((c :: t.take n) ++ fill last ps) = _
    rw [← htext, h, hlen]

theorem Laid.spellingsFrom (h : Laid w last ps) (pos : Nat) :
    Literal.spellingsFrom w pos (fill last ps) = places pos ps := by
  induction ps generalizing w pos with
  | nil => exact h pos
  | cons p ps ih => rw [fill, h.1.spellingsFrom, ih h.2, places]

theorem Laid.isNumeral (h : Laid w last ps) : ∀ s ∈ ps.map spelling, IsNumeral s := by
  induction ps generalizing w with
  | nil => simp
  | cons p ps ih =>
    rw [List.map_cons, List.forall_mem_cons]
    exact ⟨h.1.isNumeral, ih h.2⟩

theorem respelled_cons {r : Text} (h : respelled b (p :: ps) = .ok (r :: rs)) :
    respelling b p.spelling = .ok r ∧ respelled b ps = .ok rs := by
  have hmap := eq_map_ok_of_allOf h
  rw [List.map_cons, List.map_cons, List.map_cons, List.cons.injEq] at hmap
  refine ⟨hmap.1, ?_⟩
  rw [respelled, hmap.2, allOf_map_ok]

/-- Literals of a marked base in place of others change nothing in front of the first of them. -/
theorem Laid.head?_refill (h : Laid true last ps) (hb : b ≠ .decimal)
    (hrs : respelled b ps = .ok rs) : (fill last (refill ps rs)).head? = (fill last ps).head? := by
  match ps, rs, length_respelled hrs with
  | [], [], _ => rfl
  | p :: ps, r :: rs, _ =>
    obtain ⟨n, -, hr⟩ := Numeral.worth_of_respelling (respelled_cons hrs).1
    obtain ⟨c, hc, rfl⟩ := Numeral.exists_marked_of_write hb hr
    cases hgap : p.gap with
    | cons d gap => rw [refill, fill, fill, hgap]; rfl
    | nil =>
      -- only a marked literal can stand right behind a word character
      have hlength := h.1.length
      rw [hgap] at hlength
      obtain ⟨c₀, -, ds, hshape, -⟩ | ⟨-, hopen, -⟩ := Literal.shape_of_lengthAt h.1.ne_nil hlength
      · rw [refill, fill, fill, hgap, hshape]
        rfl
      · cases hopen

/-! ## Into a marked base -/

/-- Whether no spelling of pieces is followed by a digit of a base. -/
def Clear (b : Base) (last : Text) : List Piece → Prop
  | [] => True
  | _ :: ps => beginsRun b (fill last ps) = false ∧ Clear b last ps

/-- **Clear pieces** keep their places when their numerals are written in a marked base. -/
theorem Laid.refill (h : Laid w last ps) (hb : b ≠ .decimal) (hrs : respelled b ps = .ok rs)
    (hclear : Clear b last ps) : Laid w last (refill ps rs) := by
  induction ps generalizing w rs with
  | nil => exact h
  | cons p ps ih =>
    obtain ⟨r, rs, rfl⟩ := List.exists_cons_of_length_eq_add_one (length_respelled hrs)
    obtain ⟨hr, hrs'⟩ := respelled_cons hrs
    obtain ⟨n, -, hwrite⟩ := Numeral.worth_of_respelling hr
    have hrun : beginsRun b (fill last (Piece.refill ps rs)) = false := by
      rw [beginsRun, h.2.head?_refill hb hrs']
      exact hclear.1
    have hfound := h.1.respelled hb hwrite (fill last (Piece.refill ps rs))
    rw [(Literal.takeWhile_of_beginsRun hrun).1, (Literal.takeWhile_of_beginsRun hrun).2,
      List.append_nil] at hfound
    exact ⟨hfound, ih h.2 hrs' hclear.2⟩

/-- **The first literal that is followed by a digit** of a marked base has another worth when it is
    written in that base, so pieces that keep their worths are clear. -/
theorem Laid.clear_of_worths (h : Laid w last ps) (hb : b ≠ .decimal)
    (hrs : respelled b ps = .ok rs) (pos : Nat)
    (hworths : ((Literal.spellingsFrom w pos (fill last (Piece.refill ps rs))).map Spelling.text).map
      worth = (ps.map spelling).map worth) : Clear b last ps := by
  induction ps generalizing w rs pos with
  | nil => trivial
  | cons p ps ih =>
    obtain ⟨r, rs, rfl⟩ := List.exists_cons_of_length_eq_add_one (length_respelled hrs)
    obtain ⟨hr, hrs'⟩ := respelled_cons hrs
    obtain ⟨n, hn, hwrite⟩ := Numeral.worth_of_respelling hr
    have hhead := h.2.head?_refill hb hrs'
    have hfound := h.1.respelled hb hwrite (fill last (Piece.refill ps rs))
    have hsplit : fill last (Piece.refill (p :: ps) (r :: rs)) = p.gap ++
        ((r ++ (fill last (Piece.refill ps rs)).takeWhile b.hasDigit) ++
          (fill last (Piece.refill ps rs)).dropWhile b.hasDigit) := by
      rw [Piece.refill, fill, List.append_assoc, List.takeWhile_append_dropWhile]
    rw [hsplit, hfound.spellingsFrom] at hworths
    simp only [List.map_cons, List.cons.injEq] at hworths
    have hrun : beginsRun b (fill last (Piece.refill ps rs)) = false := by
      refine Numeral.beginsRun_of_worth hb hwrite ?_ (hworths.1.trans hn)
      rw [hhead]
      exact h.1.head?_ne_zero
    rw [(Literal.takeWhile_of_beginsRun hrun).2] at hworths
    rw [beginsRun, hhead] at hrun
    exact ⟨hrun, ih h.2 hrs' _ hworths.2⟩

theorem forall_places_iff (b : Base) (before : Text) (ps : List Piece) :
    (∀ s ∈ places before.length ps,
      beginsRun b ((before ++ fill last ps).drop (s.start + s.text.length)) = false) ↔
    Clear b last ps := by
  induction ps generalizing before with
  | nil => simp [places, Clear]
  | cons p ps ih =>
    have hsplit : before ++ fill last (p :: ps) = (before ++ p.gap ++ p.spelling) ++ fill last ps := by
      rw [fill, List.append_assoc, List.append_assoc]
    rw [places, List.forall_mem_cons, hsplit, ← List.length_append, ← List.length_append,
      List.drop_left, ih, Clear]

/-! ## Into decimal -/

/-- What is found behind a word character is found without it, if no word goes on. -/
theorem Laid.of_beginsWord (h : Laid w last ps) (hword : beginsWord (fill last ps) = false)
    (w' : Bool) : Laid w' last ps := by
  match ps, h with
  | [], h => exact fun pos => (Literal.spellingsFrom_of_beginsWord w' w pos hword).trans (h pos)
  | p :: ps, h =>
    refine ⟨?_, h.2⟩
    have hnum := h.1.isNumeral
    obtain ⟨hpasses, hlength, hne⟩ := h.1
    cases hgap : p.gap with
    | nil =>
      rw [fill, hgap, List.nil_append, Literal.beginsWord_numeral hnum] at hword
      cases hword
    | cons c gap =>
      rw [fill, hgap] at hword
      rw [hgap] at hpasses hlength
      constructor
      · rw [hgap]
        exact ⟨Literal.lengthAt_of_beginsWord hword, hpasses.2⟩
      · rw [hgap]
        exact hlength
      · exact hne

/-- **Decimal literals that are found stand alone.** -/
theorem Laid.spaced (h : Laid false last ps) (hdecimal : ∀ p ∈ ps, isRun .decimal p.spelling = true) :
    Spaced last ps := by
  induction ps with
  | nil => exact h 0
  | cons p ps ih =>
    obtain ⟨hp, hps⟩ := List.forall_mem_cons.1 hdecimal
    obtain ⟨-, hopen, hword⟩ : isRun .decimal p.spelling = true ∧ endsWord false p.gap = false ∧
        beginsWord (fill last ps) = false := by
      refine ⟨hp, Literal.alone_of_decimalLength hp ?_⟩
      have hlength := h.1.length
      rwa [lengthAt, Literal.markedLength_run hp hlength] at hlength
    refine ⟨⟨?_, hopen⟩, Numeral.isNumeral_iff.2 (.inr hp), hword,
      ih (h.2.of_beginsWord hword false) hps⟩
    have hpass := (h.1.passes.closed hopen []).spellingsFrom 0
    rwa [List.append_nil, Literal.spellingsFrom_nil] at hpass

theorem refill_map_spelling (ps : List Piece) : refill ps (ps.map spelling) = ps := by
  induction ps with
  | nil => rfl
  | cons p ps ih => rw [List.map_cons, refill, ih]

/-- A text falls into pieces in one way only, once it is known where the spellings stand. -/
theorem eq_of_fill_eq {last' : Text} : ∀ {ps ps' : List Piece} (pos : Nat),
    fill last ps = fill last' ps' → places pos ps = places pos ps' → ps = ps' ∧ last = last'
  | [], [], _, hfill, _ => ⟨rfl, hfill⟩
  | p :: ps, p' :: ps', pos, hfill, hplaces => by
    rw [places, places, List.cons.injEq, Spelling.mk.injEq] at hplaces
    obtain ⟨⟨hstart, hspelling⟩, hplaces⟩ := hplaces
    rw [fill, fill] at hfill
    obtain ⟨hgap, hfill⟩ := List.append_inj hfill (by omega)
    obtain ⟨-, hfill⟩ := List.append_inj hfill (by rw [hspelling])
    rw [hgap, hspelling] at hplaces
    obtain ⟨rfl, rfl⟩ := eq_of_fill_eq _ hfill hplaces
    obtain ⟨gap, spelling⟩ := p
    obtain ⟨gap', spelling'⟩ := p'
    obtain rfl : gap = gap' := hgap
    obtain rfl : spelling = spelling' := hspelling
    exact ⟨rfl, rfl⟩

/-- **Literals that are found again** where they are written in decimal stand alone in the text from
    which they come. -/
theorem Laid.delimited_of_spellings (h : Laid w last ps) (hrs : respelled .decimal ps = .ok rs)
    (hfound : spellings (fill last (Piece.refill ps rs)) = places 0 (Piece.refill ps rs)) :
    Literal.Delimited (fill last ps) := by
  have hlen := length_respelled hrs
  obtain ⟨ps', last', hfill, hlaid⟩ := exists_laid false 0 (fill last (Piece.refill ps rs))
  have hplaces : places 0 (Piece.refill ps rs) = places 0 ps' := by
    rw [← hfound, hfill]
    exact hlaid.spellingsFrom 0
  obtain ⟨rfl, rfl⟩ := eq_of_fill_eq 0 hfill hplaces
  have hdecimal : ∀ p ∈ Piece.refill ps rs, isRun .decimal p.spelling = true := by
    intro p hp
    have hmem : p.spelling ∈ rs := map_spelling_refill hlen ▸ List.mem_map_of_mem hp
    obtain ⟨s, -, hs⟩ := Numeral.exists_of_mem_respelled (eq_map_ok_of_allOf hrs) hmem
    obtain ⟨n, -, hwrite⟩ := Numeral.worth_of_respelling hs
    obtain ⟨c, hc, -⟩ | ⟨-, hr, -⟩ := Numeral.write_eq_ok hwrite
    · exact absurd rfl (Numeral.ne_decimal_of_markedBase? hc)
    · rw [hr]
      exact Numeral.isRun_digitsText .decimal n
  -- the old spellings are put back into the gaps, which no word touches
  have hsame : (ps.map spelling).length = (Piece.refill ps rs).length := by
    have hlength := congrArg List.length (map_spelling_refill hlen)
    rw [List.length_map] at hlength
    rw [List.length_map, hlength, hlen]
  have hback := (hlaid.spaced hdecimal).refill hsame h.isNumeral
  rw [refill_refill _ hlen, refill_map_spelling] at hback
  exact delimited_fill hback

/-! ## The law -/

theorem landings_replacements : ∀ {ps : List Piece} {rs : List Text} (pos out : Nat),
    rs.length = ps.length →
    Edit.landings pos out (replacements pos ps rs) = places out (refill ps rs)
  | [], [], _, _, _ => rfl
  | p :: ps, r :: rs, pos, out, h => by
    have hgap : (((pos + p.gap.length : Nat) : Int) - pos).toNat = p.gap.length := by omega
    rw [replacements, Edit.landings, refill, places, hgap,
      landings_replacements _ _ (Nat.succ.inj h)]

/-- What is found again has the values that it had. -/
theorem values_refill (h : Laid false last ps) (hrs : respelled b ps = .ok rs)
    (hfound : spellings (fill last (refill ps rs)) = places 0 (refill ps rs)) :
    Literal.values (fill last (refill ps rs)) = Literal.values (fill last ps) := by
  have hold : spellings (fill last ps) = places 0 ps := h.spellingsFrom 0
  obtain ⟨ns, hss, hrs'⟩ := Numeral.exists_worths (eq_map_ok_of_allOf hrs)
  rw [Literal.values_eq, Literal.values_eq, hfound, hold, map_text_places, map_text_places,
    map_spelling_refill (length_respelled hrs), hss, hrs']

/-- In a marked base, pieces that keep their values are clear. -/
theorem clear_of_values (h : Laid false last ps) (hb : b ≠ .decimal) (hrs : respelled b ps = .ok rs)
    (hvalues : Literal.values (fill last (refill ps rs)) = Literal.values (fill last ps)) :
    Clear b last ps := by
  have hold : spellings (fill last ps) = places 0 ps := h.spellingsFrom 0
  obtain ⟨ns, hss, -⟩ := Numeral.exists_worths (eq_map_ok_of_allOf hrs)
  rw [Literal.values_eq, Literal.values_eq, hold, map_text_places, hss, allOf_map_ok] at hvalues
  exact h.clear_of_worths hb hrs 0 ((eq_map_ok_of_allOf hvalues).trans hss.symm)

/-- In a marked base, literals are found again if no digit of that base follows one. -/
theorem found_iff_of_marked (h : Laid false last ps) (hb : b ≠ .decimal)
    (hrs : respelled b ps = .ok rs) :
    spellings (fill last (refill ps rs)) = places 0 (refill ps rs) ↔
      ∀ s ∈ spellings (fill last ps), Literal.HasRoom b (fill last ps) s := by
  have hold : spellings (fill last ps) = places 0 ps := h.spellingsFrom 0
  have hclear : (∀ s ∈ spellings (fill last ps), Literal.HasRoom b (fill last ps) s) ↔
      Clear b last ps := by
    rw [hold]
    cases b with
    | decimal => exact absurd rfl hb
    | _ => exact forall_places_iff _ [] ps
  rw [hclear]
  constructor
  · exact fun hfound => clear_of_values h hb hrs (values_refill h hrs hfound)
  · exact fun hclear => (h.refill hb hrs hclear).spellingsFrom 0

/-- In decimal, literals are found again if they stand alone. -/
theorem found_iff_of_decimal (h : Laid false last ps) (hrs : respelled .decimal ps = .ok rs) :
    spellings (fill last (refill ps rs)) = places 0 (refill ps rs) ↔
      Literal.Delimited (fill last ps) := by
  constructor
  · exact h.delimited_of_spellings hrs
  · intro hdel
    obtain ⟨ps', last', hfill, hspaced⟩ := exists_spaced hdel
    have hplaces : places 0 ps = places 0 ps' := by
      rw [← h.spellingsFrom 0, hfill]
      exact spellings_fill hspaced
    obtain ⟨rfl, rfl⟩ := eq_of_fill_eq 0 hfill hplaces
    exact spellings_fill (hspaced.respelled hrs)

end Piece

/-- **Which literals survive a pass.**  The edits that write every literal of a text in a base can
    always be made.  In the text that they give, the new literals are found where they have been put,
    and no others, exactly if each literal had room: in a marked base no digit of that base behind it,
    in decimal no word character beside it.  Then the values are the same.  In a marked base they are
    the same only then. -/
theorem respelled_survive_iff {b : Base} {t : Text} {es : List Edit} (hes : cycleEdits b t = .ok es) :
    ∃ u, Edit.applyAll t es = .ok u ∧
      (spellings u = Edit.landings 0 0 es ↔ ∀ s ∈ spellings t, Literal.HasRoom b t s) ∧
      (spellings u = Edit.landings 0 0 es → Literal.values u = Literal.values t) ∧
      (b ≠ .decimal → Literal.values u = Literal.values t →
        spellings u = Edit.landings 0 0 es) := by
  obtain ⟨ps, last, rfl, hlaid⟩ := Piece.exists_laid false 0 t
  have hold : spellings (Piece.fill last ps) = Piece.places 0 ps := hlaid.spellingsFrom 0
  rw [cycleEdits_eq, hold, Piece.allOf_places] at hes
  cases hrs : Piece.respelled b ps with
  | error e => rw [hrs] at hes; cases hes
  | ok rs =>
    rw [hrs] at hes
    obtain rfl := Except.ok.inj hes
    have hlen := Piece.length_respelled hrs
    have hlandings : Edit.landings 0 0 (Piece.replacements 0 ps rs) =
        Piece.places 0 (Piece.refill ps rs) := Piece.landings_replacements 0 0 hlen
    refine ⟨_, Piece.applyAll_replacements last hlen, ?_, ?_, ?_⟩
    · rw [hlandings]
      by_cases hb : b = .decimal
      · subst hb
        exact Piece.found_iff_of_decimal hlaid hrs
      · exact Piece.found_iff_of_marked hlaid hb hrs
    · rw [hlandings]
      exact Piece.values_refill hlaid hrs
    · rw [hlandings]
      intro hb hvalues
      exact (hlaid.refill hb hrs (Piece.clear_of_values hlaid hb hrs hvalues)).spellingsFrom 0

/-- A letter behind a literal leaves it room in octal. -/
theorem respelled_survive_iff_suffix :
    let t := "0b1 0xFFu".toList
    let es : List Edit := [⟨0, 3, "0o1".toList⟩, ⟨4, 8, "0o377".toList⟩]
    cycleEdits .octal t = .ok es ∧
      ∃ u, Edit.applyAll t es = .ok u ∧ spellings u = [⟨0, "0o1".toList⟩, ⟨4, "0o377".toList⟩] ∧
        Literal.values u = Literal.values t := by
  intro t es
  have hes : cycleEdits .octal t = .ok es := by decide +kernel
  obtain ⟨u, happly, hfound, hvalues, -⟩ := respelled_survive_iff hes
  have hroom : spellings u = Edit.landings 0 0 es := hfound.2 (by decide +kernel)
  exact ⟨hes, u, happly, hroom, hvalues hroom⟩

/-- In decimal a letter behind a literal leaves it none, and the literal is lost.  A digit of another
    base makes it another number. -/
theorem respelled_lost_and_changed :
    (cycleEdits .decimal "0xFFu".toList = .ok [⟨0, 4, "255".toList⟩] ∧
      Edit.applyAll "0xFFu".toList [⟨0, 4, "255".toList⟩] = .ok "255u".toList ∧
      Literal.values "0xFFu".toList = .ok [255] ∧ Literal.values "255u".toList = .ok []) ∧
    (cycleEdits .hex "0b12".toList = .ok [⟨0, 3, "0x1".toList⟩] ∧
      Edit.applyAll "0b12".toList [⟨0, 3, "0x1".toList⟩] = .ok "0x12".toList ∧
      Literal.values "0b12".toList = .ok [1] ∧ Literal.values "0x12".toList = .ok [18]) := by
  decide +kernel

end Respell
