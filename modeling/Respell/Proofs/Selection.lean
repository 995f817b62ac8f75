/-
  What a policy changes.

  1. **One literal** (`Policy.choice`): a policy makes another spelling of it or leaves it alone, and
     there is an edit for another spelling.

  2. **All literals** (`Policy.edits_eq`).  The edits of a policy for all literals are the changes that
     it chooses, one literal after another.  The first number that cannot be converted fails the choice
     and the edits alike.
-/
import Respell.Proofs.Changes
import Respell.Proofs.Survival

namespace Respell

open Literal (Spelling spellings)
open Numeral (worth)

/-! ## From a request to a policy -/

/-- The policy of a request for all literals. -/
theorem Request.policy_all (b : Base) (value : Nat) (s : Text) (span : Option (Int × Int))
    (equivalent : Bool) (t : Text) (cursor : Option Int) :
    Request.policy ⟨value, b.code, s, span, true, equivalent⟩ t cursor =
      .ok (some ⟨b, .all, if equivalent then .value else .spelling, ⟨s, 0, s.length, value⟩⟩) := by
  simp only [Request.policy, Base.ofCode_code]
  rfl

/-- The policy of a request for the literal in a span. -/
theorem Request.policy_span (b : Base) (value : Nat) (s : Text) (start stop : Int) (equivalent : Bool)
    (t : Text) (cursor : Option Int) :
    Request.policy ⟨value, b.code, s, some (start, stop), false, equivalent⟩ t cursor =
      .ok (some ⟨b, .single, if equivalent then .value else .spelling, ⟨s, start, stop, value⟩⟩) := by
  simp only [Request.policy, Base.ofCode_code]
  rfl

/-! ## One literal -/

namespace Policy

/-- What a policy makes of a literal: another spelling or none. -/
def choice (p : Policy) (g : Guard) (t : Text) (l : Literal) : Except NumeralError (Option Text) :=
  if p.isAbout l && g.allows t l.start then (Numeral.write p.base l.value).map some else .ok none

theorem editOf_eq (p : Policy) (g : Guard) (t : Text) (l : Literal) :
    p.editOf g t l = (p.choice g t l).map fun r? => (r?.map fun r => ⟨l.start, l.stop, r⟩).toList := by
  unfold editOf choice Literal.respell
  split
  · cases Numeral.write p.base l.value <;> rfl
  · rfl

end Policy

/-! ## All literals -/

namespace Piece

variable {last : Text} {ps : List Piece}

/-- What a policy makes of the numerals of pieces that stand behind an offset in a text. -/
def choices (p : Policy) (g : Guard) (t : Text) (pos : Nat) (ps : List Piece) :
    Except NumeralError (List (Option Text)) :=
  allOf ((places pos ps).map fun s => (worth s.text).bind fun n => p.choice g t ⟨s.text, s.start, n⟩)

theorem length_places (pos : Nat) (ps : List Piece) : (places pos ps).length = ps.length := by
  rw [← List.length_map (f := Spelling.text), map_text_places, List.length_map]

theorem length_choices {p : Policy} {g : Guard} {t : Text} {pos : Nat} {rs : List (Option Text)}
    (h : choices p g t pos ps = .ok rs) : rs.length = ps.length := by
  have hlen := congrArg List.length (eq_map_ok_of_allOf h)
  rw [List.length_map, List.length_map, length_places] at hlen
  exact hlen.symm

/-- Edits made for the places of pieces, or not, are changes. -/
theorem allOf_places_toList (f : Spelling → Except NumeralError (Option Text)) (pos : Nat)
    (ps : List Piece) :
    (allOf ((places pos ps).map fun s => (f s).map fun r? =>
        (r?.map fun r => (⟨s.start, (s.start + s.text.length : Nat), r⟩ : Edit)).toList)).map
      List.flatten = (allOf ((places pos ps).map f)).map (changes pos ps) := by
  induction ps generalizing pos with
  | nil => rfl
  | cons p ps ih =>
    have ih := ih (pos + p.gap.length + p.spelling.length)
    rw [places, List.map_cons, List.map_cons]
    cases f ⟨pos + p.gap.length, p.spelling⟩ with
    | error e => rfl
    | ok r? =>
      show ((allOf _).map (_ :: ·)).map List.flatten = ((allOf _).map (r? :: ·)).map _
      -- the rest fails on both sides or on neither
      generalize allOf ((places (pos + p.gap.length + p.spelling.length) ps).map f) = rest at ih ⊢
      generalize allOf (List.map _ (places (pos + p.gap.length + p.spelling.length) ps)) = edits
        at ih ⊢
      cases edits with
      | error e =>
        cases rest with
        | error e' => exact congrArg Except.error (Except.error.inj ih)
        | ok rs => cases ih
      | ok ess =>
        cases rest with
        | error e' => cases ih
        | ok rs => exact congrArg (fun es => Except.ok (_ ++ es)) (Except.ok.inj ih)

end Piece

namespace Policy

variable {p : Policy} {last : Text} {ps : List Piece}

/-- **The edits of a policy** for all literals of a text are the changes that it chooses. -/
theorem edits_eq (hp : p.scope = .all) (h : spellings (Piece.fill last ps) = Piece.places 0 ps)
    (g : Guard) : p.edits g (Piece.fill last ps) =
      (Piece.choices p g (Piece.fill last ps) 0 ps).map (Piece.changes 0 ps) := by
  rw [edits, hp, Literal.readAll_eq, h, List.map_map, Piece.choices, ← Piece.allOf_places_toList]
  dsimp only
  congr 3
  funext s
  rw [Function.comp_apply]
  cases worth s.text with
  | error e => rfl
  | ok n => exact p.editOf_eq g _ ⟨s.text, s.start, n⟩

/-- Edits of a policy for all literals come from a choice. -/
theorem exists_choices (hp : p.scope = .all)
    (h : spellings (Piece.fill last ps) = Piece.places 0 ps) {g : Guard} {es : List Edit}
    (hes : p.edits g (Piece.fill last ps) = .ok es) :
    ∃ rs, Piece.choices p g (Piece.fill last ps) 0 ps = .ok rs ∧ es = Piece.changes 0 ps rs := by
  rw [edits_eq hp h] at hes
  cases hrs : Piece.choices p g (Piece.fill last ps) 0 ps with
  | error e => rw [hrs] at hes; cases hes
  | ok rs =>
    rw [hrs] at hes
    exact ⟨rs, rfl, (Except.ok.inj hes).symm⟩

/-- **Literals that are found make a good edit set**, whichever of them a policy chooses. -/
theorem exists_applyAll_of_edits (hp : p.scope = .all) {g : Guard} {t : Text} {es : List Edit}
    (hes : p.edits g t = .ok es) : ∃ u, Edit.applyAll t es = .ok u := by
  obtain ⟨ps, last, rfl, hlaid⟩ := Piece.exists_laid false 0 t
  obtain ⟨rs, hrs, rfl⟩ := exists_choices hp (hlaid.spellingsFrom 0) hes
  exact ⟨_, Piece.applyAll_changes last (Piece.length_choices hrs)⟩

end Policy

end Respell
