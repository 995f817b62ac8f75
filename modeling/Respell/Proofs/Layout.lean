/-
  Texts as gaps and spellings.

  1. **Pieces.**  A text is laid out as pieces, each a gap and the spelling behind it, with an end
     behind the last piece.  `fill` is the text and `places` says where its spellings stand.

  2. **Spaced pieces** (`Spaced`) are such that the scan finds these spellings and no others.  The
     conditions speak of one gap or one spelling at a time: nothing is found in a gap, no word is
     left open in front of a spelling, and none goes on behind it.  The scan falls apart at these
     seams, which is `spellingsFrom_fill`.

  3. **Delimited texts** are those with no word character beside any spelling.  They are the texts
     that spaced pieces make (`exists_spaced`, `delimited_fill`).

  4. **The crux** (`Spaced.refill`).  Whether pieces are spaced does not depend on how the numerals
     in them are spelled: each begins and ends with word characters, and the gap between two is
     never empty.  So a text keeps its gaps when its numerals are written anew, none is lost, and
     none comes up that was not there.
-/
import Respell.Edit
import Respell.Proofs.Scanning
import Mathlib.Data.List.Basic

namespace Respell

/-- A spelling in a text, and what stands between it and the one in front. -/
structure Piece where
  gap : Text
  spelling : Text
  deriving DecidableEq, Repr

namespace Piece

open Literal (Spelling spellings spellingsFrom endsWord beginsWord)
open Numeral (IsNumeral)

/-- The text of pieces with an end behind them. -/
def fill (last : Text) : List Piece → Text
  | [] => last
  | p :: ps => p.gap ++ (p.spelling ++ fill last ps)

/-- The spellings of pieces, and where they stand behind an offset. -/
def places (pos : Nat) : List Piece → List Spelling
  | [] => []
  | p :: ps =>
    ⟨pos + p.gap.length, p.spelling⟩ :: places (pos + p.gap.length + p.spelling.length) ps

example : fill [';'] [⟨['a', ' '], ['1']⟩, ⟨[' '], ['2']⟩] = ['a', ' ', '1', ' ', '2', ';'] ∧
    places 0 [⟨['a', ' '], ['1']⟩, ⟨[' '], ['2']⟩] = [⟨2, ['1']⟩, ⟨4, ['2']⟩] := by decide

/-- Pieces with other spellings. -/
def refill : List Piece → List Text → List Piece
  | p :: ps, r :: rs => ⟨p.gap, r⟩ :: refill ps rs
  | _, _ => []

/-- Whether every spelling of pieces is a numeral set apart from the words around it, and nothing
    else in their text is found. -/
def Spaced (last : Text) : List Piece → Prop
  | [] => spellings last = []
  | p :: ps =>
    (spellings p.gap = [] ∧ endsWord false p.gap = false) ∧ IsNumeral p.spelling ∧
      beginsWord (fill last ps) = false ∧ Spaced last ps

variable {last : Text} {ps : List Piece}

/-! ## The scan of pieces -/

/-- **The scan of spaced pieces** finds their spellings, where they stand. -/
theorem spellingsFrom_fill (h : Spaced last ps) (pos : Nat) :
    spellingsFrom false pos (fill last ps) = places pos ps := by
  induction ps generalizing pos with
  | nil => exact (Literal.spellingsFrom_eq_nil_iff pos).2 h
  | cons p ps ih =>
    obtain ⟨⟨hgap, hopen⟩, hnum, hclosed, hps⟩ := h
    rw [fill, Literal.spellingsFrom_alone pos hopen hnum hclosed,
      (Literal.spellingsFrom_eq_nil_iff pos).2 hgap, ih hps]
    rfl

theorem spellings_fill (h : Spaced last ps) : spellings (fill last ps) = places 0 ps :=
  spellingsFrom_fill h 0

theorem map_text_places (pos : Nat) (ps : List Piece) :
    (places pos ps).map Spelling.text = ps.map spelling := by
  induction ps generalizing pos with
  | nil => rfl
  | cons p ps ih => rw [places, List.map_cons, ih, List.map_cons]

/-! ## Other spellings -/

theorem map_spelling_refill : ∀ {ps : List Piece} {rs : List Text}, rs.length = ps.length →
    (refill ps rs).map spelling = rs
  | [], [], _ => rfl
  | p :: ps, r :: rs, h => by
    rw [refill, List.map_cons, map_spelling_refill (Nat.succ.inj h)]

theorem map_gap_refill : ∀ {ps : List Piece} {rs : List Text}, rs.length = ps.length →
    (refill ps rs).map gap = ps.map gap
  | [], [], _ => rfl
  | p :: ps, r :: rs, h => by
    rw [refill, List.map_cons, map_gap_refill (Nat.succ.inj h), List.map_cons]

/-- Of two changes of the spellings only the second can be seen. -/
theorem refill_refill : ∀ {ps : List Piece} {rs : List Text} (rs' : List Text),
    rs.length = ps.length → refill (refill ps rs) rs' = refill ps rs'
  | [], _, _, _ => rfl
  | p :: ps, r :: rs, [], _ => rfl
  | p :: ps, r :: rs, r' :: rs', h => by
    rw [refill, refill, refill, refill_refill rs' (Nat.succ.inj h)]

/-- If no word begins the text of pieces, none does with other spellings: there is a gap. -/
theorem beginsWord_fill_refill (h : Spaced last ps) (hb : beginsWord (fill last ps) = false)
    {rs : List Text} (hlen : rs.length = ps.length) :
    beginsWord (fill last (refill ps rs)) = false := by
  match ps, rs, hlen with
  | [], [], _ => exact hb
  | p :: ps, r :: rs, _ =>
    obtain ⟨-, hnum, -, -⟩ := h
    cases hgap : p.gap with
    | nil =>
      rw [fill, hgap, List.nil_append, Literal.beginsWord_numeral hnum] at hb
      cases hb
    | cons c gap =>
      rw [fill, hgap] at hb
      rw [refill, fill, hgap]
      exact hb

/-- **Spaced pieces stay spaced** whatever numerals stand in them. -/
theorem Spaced.refill (h : Spaced last ps) {rs : List Text} (hlen : rs.length = ps.length)
    (hnum : ∀ r ∈ rs, IsNumeral r) : Spaced last (refill ps rs) := by
  induction ps generalizing rs with
  | nil => exact h
  | cons p ps ih =>
    obtain ⟨r, rs, rfl⟩ := List.exists_cons_of_length_eq_add_one hlen
    obtain ⟨hgap, -, hclosed, hps⟩ := h
    obtain ⟨hr, hrs⟩ := List.forall_mem_cons.1 hnum
    have hlen' : rs.length = ps.length := Nat.succ.inj hlen
    exact ⟨hgap, hr, beginsWord_fill_refill hps hclosed hlen', ih hps hlen' hrs⟩

end Piece

/-! ## Delimited texts -/

namespace Literal

/-- Whether no word character stands on either side of a spelling in a text. -/
def StandsAlone (t : Text) (s : Spelling) : Prop :=
  endsWord false (t.take s.start) = false ∧ beginsWord (t.drop (s.start + s.text.length)) = false

/-- Whether no word character stands beside any literal of a text. -/
def Delimited (t : Text) : Prop := ∀ s ∈ spellings t, StandsAlone t s

instance (t : Text) (s : Spelling) : Decidable (StandsAlone t s) := by
  unfold StandsAlone
  infer_instance

instance (t : Text) : Decidable (Delimited t) := by
  unfold Delimited
  infer_instance

example : Delimited "0x1F, 10;".toList ∧ ¬ Delimited "0x1Fu 10".toList := by decide +kernel

end Literal

namespace Piece

open Literal (Spelling spellings spellingsFrom endsWord beginsWord StandsAlone Delimited)
open Numeral (IsNumeral)

variable {last : Text} {ps : List Piece}

/-- A text in which all spellings stand alone is made of spaced pieces, wherever it stands. -/
theorem exists_spaced_behind {ss : List Spelling} (before : Text) {t : Text}
    (hscan : spellingsFrom false before.length t = ss)
    (halone : ∀ s ∈ ss, StandsAlone (before ++ t) s) :
    ∃ ps last, t = fill last ps ∧ Spaced last ps := by
  induction ss generalizing before t with
  | nil => exact ⟨[], t, rfl, (Literal.spellingsFrom_eq_nil_iff _).1 hscan⟩
  | cons s ss ih =>
    obtain ⟨u, x, rfl, hstart, hnum, hss⟩ := Literal.exists_of_spellingsFrom hscan
    obtain ⟨⟨hopen, hclosed⟩, halone⟩ := List.forall_mem_cons.1 halone
    -- the text in front of the spelling, and the text behind it
    have hfront : s.start = (before ++ u).length := by rw [hstart, List.length_append]
    have hback : s.start + s.text.length = (before ++ u ++ s.text).length := by
      rw [hfront, ← List.length_append]
    rw [hfront, ← List.append_assoc, List.take_left] at hopen
    rw [hback, ← List.append_assoc, ← List.append_assoc, List.drop_left] at hclosed
    rw [hback, Literal.spellingsFrom_of_beginsWord true false _ hclosed] at hss
    have hgap : endsWord false u = false := by
      rcases u.eq_nil_or_concat with rfl | ⟨v, c, rfl⟩
      · rfl
      · rw [Literal.endsWord_append] at hopen
        rwa [Literal.endsWord_of_ne_nil false (endsWord false before) (by simp)]
    -- the spelling is the first one, so nothing is found in front of it
    have hnone : spellingsFrom false before.length u = [] := by
      rw [Literal.spellingsFrom_alone _ hgap hnum hclosed, ← List.length_append,
        ← List.length_append, ← hss] at hscan
      have hlen := congrArg List.length hscan
      rw [List.length_append, List.length_cons, List.length_cons] at hlen
      exact List.length_eq_zero_iff.1 (by omega)
    obtain ⟨ps, last, rfl, hps⟩ := ih _ hss.symm fun s' hs' => by
      simpa only [List.append_assoc] using halone s' hs'
    exact ⟨⟨u, s.text⟩ :: ps, last, rfl,
      ⟨(Literal.spellingsFrom_eq_nil_iff _).1 hnone, hgap⟩, hnum, hclosed, hps⟩

/-- **A delimited text is made of spaced pieces.** -/
theorem exists_spaced {t : Text} (h : Delimited t) : ∃ ps last, t = fill last ps ∧ Spaced last ps :=
  exists_spaced_behind [] rfl h

/-- The spellings of spaced pieces stand alone, wherever the pieces stand. -/
theorem standsAlone_of_mem_places (h : Spaced last ps) (before : Text)
    (hbefore : endsWord false before = false ∨ beginsWord (fill last ps) = false) :
    ∀ s ∈ places before.length ps, StandsAlone (before ++ fill last ps) s := by
  induction ps generalizing before with
  | nil => simp [places]
  | cons p ps ih =>
    obtain ⟨⟨-, hopen⟩, hnum, hclosed, hps⟩ := h
    have hsplit : before ++ fill last (p :: ps) =
        (before ++ p.gap ++ p.spelling) ++ fill last ps := by
      rw [fill, List.append_assoc, List.append_assoc]
    rw [places, List.forall_mem_cons]
    constructor
    · constructor
      · -- a word in front of the pieces would go on in the spelling if there were no gap
        rw [hsplit, List.append_assoc, ← List.length_append, List.take_left, Literal.endsWord_append]
        by_cases hgap : p.gap = []
        · rw [hgap]
          refine hbefore.resolve_right ?_
          rw [fill, hgap, List.nil_append, Literal.beginsWord_numeral hnum]
          exact Bool.noConfusion
        · rwa [Literal.endsWord_of_ne_nil _ false hgap]
      · rwa [hsplit, ← List.length_append, ← List.length_append, List.drop_left]
    · rw [hsplit, ← List.length_append, ← List.length_append]
      exact ih hps _ (.inr hclosed)

/-- **Spaced pieces make a delimited text.** -/
theorem delimited_fill (h : Spaced last ps) : Delimited (fill last ps) := by
  intro s hs
  rw [spellings_fill h] at hs
  exact standsAlone_of_mem_places h [] (.inl rfl) s hs

end Piece

end Respell
