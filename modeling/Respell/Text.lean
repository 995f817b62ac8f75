/-
  Text as a list of code points, and the two ways the library takes a text apart: by offset and by
  line.

  1. **Offsets.**  An offset is an integer.  From zero up it counts code points from the start;
     below zero it counts back from the end.  `place` turns any offset into a position between the
     two ends, so `before`, `after` and `slice` are total: an offset outside the text means its
     nearest end, and a slice whose ends are crossed is empty.  `index?` names one member of a list
     in the same way, and none outside it.

  2. **Parts.**  `split` cuts at every separator and `join` puts one between each two parts;
     `join_split` says that nothing is lost, and `split_join` that the parts come back whenever
     none of them holds the separator.  The lines of a text are its parts at the newline: a text of
     `n` newlines has `n + 1` lines.
-/

namespace Respell

/-- A text is its list of code points. -/
abbrev Text := List Char

namespace Text

/-! ## Offsets -/

/-- The position, between `0` and `n`, that an offset names in a text of length `n`. -/
def place (n : Nat) (i : Int) : Nat :=
  if i < 0 then (n + i).toNat else min i.toNat n

example : place 5 2 = 2 ∧ place 5 9 = 5 ∧ place 5 (-1) = 4 ∧ place 5 (-9) = 0 := by decide

theorem place_le (n : Nat) (i : Int) : place n i ≤ n := by
  unfold place
  split <;> omega

theorem place_natCast {n i : Nat} (h : i ≤ n) : place n i = i := by
  unfold place
  split <;> omega

/-- The part of a text in front of an offset. -/
def before (t : Text) (i : Int) : Text := t.take (place t.length i)

/-- The part of a text from an offset on. -/
def after (t : Text) (i : Int) : Text := t.drop (place t.length i)

/-- The part of a text between two offsets, empty when they are crossed. -/
def slice (t : Text) (i j : Int) : Text := (before t j).drop (place t.length i)

example : slice ['a', 'b', 'c', 'd'] 1 (-1) = ['b', 'c'] := by decide
example : slice ['a', 'b'] 2 1 = [] := by decide

/-- The place of the member of a list of length `n` that an index names; none beyond either end. -/
def index? (n : Nat) (i : Int) : Option Nat :=
  let k := if i < 0 then n + i else i
  if 0 ≤ k ∧ k < n then some k.toNat else none

example : index? 5 2 = some 2 ∧ index? 5 (-5) = some 0 := by decide
example : index? 5 5 = none ∧ index? 5 (-6) = none := by decide

theorem index?_natCast {n i : Nat} (h : i < n) : index? n i = some i := by
  simp only [index?, Option.ite_none_right_eq_some, Option.some.injEq]
  omega

/-! ## Parts -/

/-- What stands between the separators of a text, never an empty list. -/
def split (sep : Char) : Text → List Text
  | [] => [[]]
  | c :: t =>
    if c = sep then [] :: split sep t
    else match split sep t with
      | [] => [[c]]
      | l :: ls => (c :: l) :: ls

/-- The parts as one text, with a separator between each two. -/
def join (sep : Text) : List Text → Text
  | [] => []
  | [l] => l
  | l :: ls => l ++ sep ++ join sep ls

example : split '/' ['a', '/', '/', 'b'] = [['a'], [], ['b']] := by decide
example : split '/' [] = [[]] := by decide
example : join ['/'] [['a'], [], ['b']] = ['a', '/', '/', 'b'] := by decide

theorem split_ne_nil (sep : Char) : (t : Text) → split sep t ≠ []
  | [] => by simp [split]
  | c :: t => by
    unfold split
    split
    · simp
    · split <;> simp

theorem join_cons (sep l : Text) {ls : List Text} (h : ls ≠ []) :
    join sep (l :: ls) = l ++ sep ++ join sep ls := by
  cases ls with
  | nil => exact absurd rfl h
  | cons m ms => rfl

/-- Joining the parts of a text gives the text back. -/
theorem join_split (sep : Char) : (t : Text) → join [sep] (split sep t) = t
  | [] => rfl
  | c :: t => by
    have ih := join_split sep t
    have hne := split_ne_nil sep t
    unfold split
    split
    · rename_i h
      rw [join_cons _ _ hne, ih, h]
      rfl
    · revert ih hne
      cases split sep t with
      | nil => intro _ hne; exact absurd rfl hne
      | cons l ls =>
        intro ih _
        cases ls with
        | nil => rw [← ih]; rfl
        | cons m ms => rw [← ih]; rfl

/-- No part of a text holds the separator. -/
theorem sep_notMem_of_mem_split (sep : Char) : (t : Text) → ∀ l ∈ split sep t, sep ∉ l
  | [] => by simp [split]
  | c :: t => by
    have ih := sep_notMem_of_mem_split sep t
    unfold split
    split
    · intro l hl
      rcases List.mem_cons.1 hl with rfl | hl
      · simp
      · exact ih l hl
    · rename_i hc
      revert ih
      cases split sep t with
      | nil => intro _ l hl; simp at hl; subst hl; simpa [eq_comm] using hc
      | cons m ms =>
        intro ih l hl
        rcases List.mem_cons.1 hl with rfl | hl
        · intro hmem
          rcases List.mem_cons.1 hmem with h | h
          · exact hc h.symm
          · exact ih m List.mem_cons_self h
        · exact ih l (List.mem_cons_of_mem _ hl)

theorem split_of_notMem (sep : Char) : (l : Text) → sep ∉ l → split sep l = [l]
  | [], _ => rfl
  | c :: t, h => by
    have hc : c ≠ sep := fun e => h (e ▸ List.mem_cons_self)
    have ht : sep ∉ t := fun m => h (List.mem_cons_of_mem _ m)
    simp [split, hc, split_of_notMem sep t ht]

theorem split_append_sep (sep : Char) :
    (l t : Text) → sep ∉ l → split sep (l ++ sep :: t) = l :: split sep t
  | [], t, _ => by simp [split]
  | c :: l, t, h => by
    have hc : c ≠ sep := fun e => h (e ▸ List.mem_cons_self)
    have hl : sep ∉ l := fun m => h (List.mem_cons_of_mem _ m)
    simp [split, hc, split_append_sep sep l t hl]

/-- Parts without the separator come back from the text they make. -/
theorem split_join (sep : Char) :
    (ls : List Text) → ls ≠ [] → (∀ l ∈ ls, sep ∉ l) → split sep (join [sep] ls) = ls
  | [], h, _ => absurd rfl h
  | [l], _, h => split_of_notMem sep l (h l (by simp))
  | l :: m :: ms, _, h => by
    rw [join_cons [sep] l (by simp), List.append_assoc, List.singleton_append,
      split_append_sep _ _ _ (h l (by simp)),
      split_join sep (m :: ms) (by simp) (fun k hk => h k (List.mem_cons_of_mem _ hk))]

/-- What stands behind the last separator of a text. -/
def lastPart (sep : Char) (t : Text) : Text := (t.reverse.takeWhile (· ≠ sep)).reverse

example : lastPart '/' ['a', '/', 'b'] = ['b'] ∧ lastPart '/' ['a', '/'] = [] := by decide

/-! ## Lines -/

/-- The lines of a text: what stands between its newlines. -/
def lines (t : Text) : List Text := split '\n' t

/-- The text with the given lines, one newline between each two. -/
def unlines (ls : List Text) : Text := join ['\n'] ls

theorem unlines_lines (t : Text) : unlines (lines t) = t := join_split '\n' t

theorem lines_unlines {ls : List Text} (hne : ls ≠ []) (h : ∀ l ∈ ls, '\n' ∉ l) :
    lines (unlines ls) = ls :=
  split_join '\n' ls hne h

/-! ## Filling up -/

/-- A text with as many `c` in front as make it `n` characters long. -/
def padLeft (n : Nat) (c : Char) (t : Text) : Text := List.replicate (n - t.length) c ++ t

example : padLeft 4 ' ' ['7'] = [' ', ' ', ' ', '7'] := by decide

end Text

end Respell
