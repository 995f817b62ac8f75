/-
  A newline at the end of a text is no matter to a conversion.

  The editor takes the newline at the end of a file off and writes it again, and the command line leaves
  it where it is.  It makes no difference, since no literal ends later, and the guard of none sees
  further, if a text gets longer by something `Quiet`.

  1. **Literals.**  The pieces of a text stay, and its end gets longer.

  2. **Guards** look at what stands in front of a literal only (`Guard.allows_append`).

  3. **Conversions** (`cycleText_append`, `respelledText_append`) give the same text with the same end
     behind it, or fail for the same number.
-/
import Respell.Proofs.LookBehind
import Respell.Proofs.Rewritten

namespace Respell

open Literal (Spelling spellings spellingsFrom beginsWord)
open Numeral (worth)

variable {x t : Text}

/-! ## Literals -/

/-- Whether a text behind another one makes no literal and takes none away. -/
def Quiet (x : Text) : Prop := beginsWord x = false ∧ spellings x = []

theorem quiet_nil : Quiet [] := ⟨rfl, Literal.spellingsFrom_nil⟩

theorem quiet_newline : Quiet ['\n'] := ⟨by decide, by decide +kernel⟩

namespace Quiet

theorem spellings_append (hx : Quiet x) (t : Text) : spellings (t ++ x) = spellings t := by
  have hnone : ∀ w pos, spellingsFrom w pos x = [] := by
    intro w pos
    rw [Literal.spellingsFrom_of_beginsWord w false pos hx.1]
    exact (Literal.spellingsFrom_eq_nil_iff pos).2 hx.2
  rw [spellings, Literal.spellingsFrom_append false 0 t hx.1, hnone, List.append_nil]
  rfl

end Quiet

theorem Piece.fill_append (last x : Text) (ps : List Piece) :
    fill (last ++ x) ps = fill last ps ++ x := by
  induction ps with
  | nil => rfl
  | cons p ps ih => rw [fill, fill, ih, List.append_assoc, List.append_assoc]

/-- The pieces of a text are those of a longer one. -/
theorem Quiet.exists_pieces (hx : Quiet x) (t : Text) :
    ∃ ps last, t = Piece.fill last ps ∧ t ++ x = Piece.fill (last ++ x) ps ∧
      spellings t = Piece.places 0 ps ∧ spellings (t ++ x) = Piece.places 0 ps := by
  obtain ⟨ps, last, rfl, hps⟩ := Piece.exists_laid false 0 t
  refine ⟨ps, last, rfl, (Piece.fill_append last x ps).symm, hps.spellingsFrom 0, ?_⟩
  rw [hx.spellings_append]
  exact hps.spellingsFrom 0

/-! ## Guards -/

/-- **A guard does not look behind a literal.** -/
theorem Guard.allows_append (g : Guard) {i : Nat} (hi : i ≤ t.length) (x : Text) :
    g.allows (t ++ x) i = g.allows t i := by
  have hlen : (t.take i).length = i := List.length_take_of_le hi
  have hlook : ∀ rest, g.look (t.take i ++ rest) i = (t.take i).drop (i - g.window.toNat) := by
    intro rest
    have h := g.look_append (t.take i) rest
    rwa [hlen] at h
  have hsplit : t ++ x = t.take i ++ (t.drop i ++ x) := by
    rw [← List.append_assoc, List.take_append_drop]
  have hbehind : g.look (t ++ x) i = g.look t i := by
    rw [hsplit, hlook, ← hlook (t.drop i), List.take_append_drop]
  rw [allows, allows, blocking?, blocking?, hbehind]

/-! ## Conversions -/

/-- **The pass over all literals** leaves a quiet end as it is. -/
theorem cycleText_append (hx : Quiet x) (b : Base) (t : Text) :
    cycleText b (t ++ x) = (cycleText b t).map (· ++ x) := by
  have hedits : cycleEdits b (t ++ x) = cycleEdits b t := by
    rw [cycleEdits_eq, cycleEdits_eq, hx.spellings_append]
  rw [cycleText_eq, cycleText_eq, hedits]
  obtain ⟨ps, last, rfl, hlonger, hplaces, -⟩ := hx.exists_pieces t
  rw [cycleEdits_eq, hplaces, Piece.allOf_places]
  cases hrs : Piece.respelled b ps with
  | error e => rfl
  | ok rs =>
    have hlen := Piece.length_respelled hrs
    show (Edit.applyAll (Piece.fill last ps ++ x) (Piece.replacements 0 ps rs)).mapError _ =
      ((Edit.applyAll (Piece.fill last ps) (Piece.replacements 0 ps rs)).mapError _).map _
    rw [hlonger, Piece.applyAll_replacements _ hlen, Piece.applyAll_replacements _ hlen,
      Piece.fill_append]
    rfl

/-- A policy chooses the same for a literal, if a text gets longer behind it. -/
theorem Policy.choice_append (p : Policy) (g : Guard) {l : Literal} (hl : l.start ≤ t.length)
    (x : Text) : p.choice g (t ++ x) l = p.choice g t l := by
  rw [choice, choice, g.allows_append hl]

/-- **What a policy makes of a text** has the same end. -/
theorem respelledText_append (hx : Quiet x) {p : Policy} (hp : p.scope = .all) (g : Guard) (t : Text) :
    p.respelledText g (t ++ x) = (p.respelledText g t).map (· ++ x) := by
  obtain ⟨ps, last, rfl, hlonger, hplaces, hplaces'⟩ := hx.exists_pieces t
  -- Each literal begins inside the shorter text, so that the guard sees the same in front of it.
  have hinside : ∀ s ∈ Piece.places 0 ps, s.start ≤ (Piece.fill last ps).length := by
    intro s hs
    rw [← hplaces] at hs
    obtain ⟨u, behind, hsplit, hstart, -, -⟩ := Literal.exists_around_of_mem hs
    rw [hsplit, hstart, List.length_append]
    omega
  have hchoices : Piece.choices p g (Piece.fill (last ++ x) ps) 0 ps =
      Piece.choices p g (Piece.fill last ps) 0 ps := by
    unfold Piece.choices
    refine congrArg allOf (List.map_congr_left fun s hs => ?_)
    rw [← hlonger]
    exact congrArg (worth s.text).bind (funext fun n => p.choice_append g (hinside s hs) x)
  rw [hlonger] at hplaces' ⊢
  rw [Policy.respelledText, Policy.respelledText, Policy.edits_eq hp hplaces,
    Policy.edits_eq hp hplaces', hchoices]
  cases hrs : Piece.choices p g (Piece.fill last ps) 0 ps with
  | error e => rfl
  | ok rs =>
    have hlen := Piece.length_choices hrs
    show (Edit.applyAll (Piece.fill (last ++ x) ps) (Piece.changes 0 ps rs)).mapError _ =
      ((Edit.applyAll (Piece.fill last ps) (Piece.changes 0 ps rs)).mapError _).map _
    rw [Piece.applyAll_changes _ hlen, Piece.applyAll_changes _ hlen, Piece.fill_append]
    rfl

end Respell
