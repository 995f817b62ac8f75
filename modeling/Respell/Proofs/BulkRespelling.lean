/-
  A bulk respelling changes what was chosen and nothing else.

  A policy for all literals of a delimited text is carried out under a guard.  Later offsets shift with
  every literal that gets longer or shorter, and the text that comes out has to be scanned again.  This
  file proves that the literals of the new text are those of the old one, one for one.

  1. **Gaps** (`Literal.gaps`): what stands in front of, between and behind the literals of a text.  The
     literals of spaced pieces have the gaps of the pieces (`gaps_fill`).

  2. **One literal** (`Policy.Makes`) is written in the base of the policy if the policy is about it and
     the guard allows it, and keeps its spelling if not.  Either way it keeps its worth
     (`worth_of_makes`).

  3. **All literals** (`forall₂_chosen`).  The choice of a policy makes of each literal what the policy
     makes of it.  The chosen spellings are numerals again, so the pieces stay spaced, and the scan of
     the new text finds each where the gaps put it.
-/
import Respell.Proofs.Grammar
import Respell.Proofs.Selection

namespace Respell

open Literal (Spelling spellings scan)
open Numeral (IsNumeral worth)

/-! ## Gaps -/

namespace Literal

/-- What stands in a text from an offset to the first of some literals, between them, and behind the
    last one. -/
def gapsFrom (t : Text) (pos : Nat) : List Literal → List Text
  | [] => [t.drop pos]
  | l :: ls => (t.take l.start).drop pos :: gapsFrom t l.stop ls

/-- What stands in front of the literals of a text, between them, and behind the last one. -/
def gaps (t : Text) (ls : List Literal) : List Text := gapsFrom t 0 ls

example : gaps "x 1, 0b1".toList [⟨['1'], 2, 1⟩, ⟨"0b1".toList, 5, 1⟩] =
    ["x ".toList, ", ".toList, []] := by decide

/-- Literals that stand where pieces do have the gaps of the pieces. -/
theorem gapsFrom_fill {last : Text} : ∀ {ps : List Piece} {ls : List Literal} (front : Text),
    ls.map (fun l => (⟨l.start, l.spelling⟩ : Spelling)) = Piece.places front.length ps →
    gapsFrom (front ++ Piece.fill last ps) front.length ls = ps.map Piece.gap ++ [last]
  | [], [], front, _ => by
    rw [gapsFrom, Piece.fill, List.drop_left]
    rfl
  | p :: ps, l :: ls, front, h => by
    obtain ⟨hl, hls⟩ := List.cons.inj h
    obtain ⟨hstart, hspelling⟩ := Spelling.mk.inj hl
    have hstart : l.start = (front ++ p.gap).length := by rw [hstart, List.length_append]
    have hstop : l.stop = (front ++ p.gap ++ p.spelling).length := by
      rw [stop, hstart, hspelling, ← List.length_append]
    have hsplit : front ++ Piece.fill last (p :: ps) =
        (front ++ p.gap ++ p.spelling) ++ Piece.fill last ps := by
      rw [Piece.fill, List.append_assoc, List.append_assoc]
    have hls : ls.map (fun l => (⟨l.start, l.spelling⟩ : Spelling)) =
        Piece.places (front ++ p.gap ++ p.spelling).length ps := by
      rw [hls, List.length_append, List.length_append]
    have ih : gapsFrom (front ++ p.gap ++ p.spelling ++ Piece.fill last ps)
        (front ++ p.gap ++ p.spelling).length ls = ps.map Piece.gap ++ [last] := gapsFrom_fill _ hls
    rw [gapsFrom, hstop, hsplit, ih, hstart, List.append_assoc _ p.spelling, List.take_left,
      List.drop_left]
    rfl

theorem gaps_fill {last : Text} {ps : List Piece} {ls : List Literal} (h : Piece.Spaced last ps)
    (hls : scan (Piece.fill last ps) = .ok ls) :
    gaps (Piece.fill last ps) ls = ps.map Piece.gap ++ [last] :=
  gapsFrom_fill [] (by rw [← spellings_of_scan hls, Piece.spellings_fill h]; rfl)

end Literal

/-! ## One literal -/

namespace Policy

/-- What a policy under a guard makes of a literal of a text. -/
def Makes (p : Policy) (g : Guard) (t : Text) (l : Literal) (s : Text) : Prop :=
  if p.isAbout l ∧ g.allows t l.start then Numeral.write p.base l.value = .ok s else s = l.spelling

variable {p : Policy} {g : Guard} {t : Text} {l : Literal}

/-- The choice of a policy is what it makes of a literal. -/
theorem choice_eq_ok_iff {s : Text} :
    (p.choice g t l).map (·.getD l.spelling) = .ok s ↔ p.Makes g t l s := by
  unfold choice Makes
  simp only [Bool.and_eq_true]
  split
  · have hself : ((Numeral.write p.base l.value).map some).map (·.getD l.spelling) =
        Numeral.write p.base l.value := by
      cases Numeral.write p.base l.value <;> rfl
    rw [hself]
  · exact ⟨fun h => (Except.ok.inj h).symm, fun h => congrArg Except.ok h.symm⟩

/-- Either way a literal is a numeral again and keeps its worth. -/
theorem worth_of_makes {s : Text} (h : p.Makes g t l s) (hnum : IsNumeral l.spelling)
    (hworth : worth l.spelling = .ok l.value) : IsNumeral s ∧ worth s = .ok l.value := by
  unfold Makes at h
  split at h
  · exact ⟨Numeral.isNumeral_write h, Numeral.worth_of_read (Numeral.read_write h)⟩
  · subst h
    exact ⟨hnum, hworth⟩

end Policy

/-! ## All literals -/

namespace Piece

variable {p : Policy} {g : Guard} {t last : Text} {ps : List Piece}

/-- A choice is made for the literals that are found. -/
theorem exists_scan_of_choices {rs : List (Option Text)} (h : spellings (fill last ps) = places 0 ps)
    (hrs : choices p g t 0 ps = .ok rs) :
    ∃ ls, scan (fill last ps) = .ok ls ∧ ls.map (p.choice g t) = rs.map .ok := by
  have hread : choices p g t 0 ps =
      allOf ((Literal.readAll (fill last ps)).map (·.bind (p.choice g t))) := by
    rw [choices, Literal.readAll_eq, h, List.map_map]
    congr 2
    funext s
    rw [Function.comp_apply]
    cases worth s.text <;> rfl
  rw [hread] at hrs
  obtain ⟨ls, hls, hchoice⟩ := allOf_map_bind.1 hrs
  exact ⟨ls, hls, eq_map_ok_of_allOf hchoice⟩

/-- The chosen spellings are what the policy makes of the literals. -/
theorem forall₂_chosen : ∀ {ps : List Piece} {ls : List Literal} {rs : List (Option Text)},
    ls.map Literal.spelling = ps.map spelling → ls.map (p.choice g t) = rs.map .ok →
    List.Forall₂ (p.Makes g t) ls (chosen ps rs)
  | [], [], [], _, _ => .nil
  | q :: ps, l :: ls, r? :: rs, hs, hc => by
    obtain ⟨hl, hs⟩ := List.cons.inj hs
    obtain ⟨hr, hc⟩ := List.cons.inj hc
    have hmakes : p.Makes g t l (r?.getD l.spelling) := Policy.choice_eq_ok_iff.1 (by rw [hr]; rfl)
    rw [hl] at hmakes
    exact .cons hmakes (forall₂_chosen hs hc)

/-- **The scan of what comes out.**  The literals of spaced pieces with the chosen spellings are, one
    for one, what the policy makes of the literals that were there. -/
theorem exists_scans (h : Spaced last ps) {rs : List (Option Text)}
    (hrs : choices p g (fill last ps) 0 ps = .ok rs) :
    ∃ ls ls', scan (fill last ps) = .ok ls ∧ scan (fill last (refill ps (chosen ps rs))) = .ok ls' ∧
      Spaced last (refill ps (chosen ps rs)) ∧
      List.Forall₂ (fun l l' => l'.value = l.value ∧ p.Makes g (fill last ps) l l'.spelling)
        ls ls' := by
  obtain ⟨ls, hls, hchoice⟩ := exists_scan_of_choices (spellings_fill h) hrs
  have hlen := length_chosen (length_choices hrs)
  have hspellings : ls.map Literal.spelling = ps.map spelling := by
    rw [← map_text_places 0 ps, ← spellings_fill h, Literal.spellings_of_scan hls, List.map_map]
    rfl
  have hmakes := forall₂_chosen hspellings hchoice
  -- each chosen spelling is a numeral, worth what the literal was
  have hold : ∀ l ∈ ls, IsNumeral l.spelling ∧ worth l.spelling = .ok l.value := by
    intro l hl
    obtain ⟨hplace, hworth⟩ := Literal.mem_of_scan hls hl
    exact ⟨Literal.isNumeral_of_mem_spellingsFrom hplace, hworth⟩
  have hnew : List.Forall₂ (fun s l => IsNumeral s ∧ worth s = .ok l.value) (chosen ps rs) ls :=
    List.Forall₂.flip <| ((List.forall₂_and_left _ _).2 ⟨hold, hmakes⟩).imp fun l s hl =>
      Policy.worth_of_makes hl.2 hl.1.1 hl.1.2
  obtain ⟨hnumerals, hnew⟩ := (List.forall₂_and_left _ _).1 hnew
  have hspaced : Spaced last (refill ps (chosen ps rs)) := h.refill hlen hnumerals
  have hworths : (chosen ps rs).map worth = (ls.map Literal.value).map .ok := by
    rw [List.map_map, ← List.forall₂_eq_eq_eq, List.forall₂_map_left_iff, List.forall₂_map_right_iff]
    exact hnew
  have htexts : (spellings (fill last (refill ps (chosen ps rs)))).map Spelling.text =
      chosen ps rs := by
    rw [spellings_fill hspaced, map_text_places, map_spelling_refill hlen]
  obtain ⟨ls', hls', hvalues⟩ := Literal.exists_scan (htexts.symm ▸ hworths)
  refine ⟨ls, ls', hls, hls', hspaced, ?_⟩
  have hspellings' : ls'.map Literal.spelling = chosen ps rs := by
    rw [← htexts, Literal.spellings_of_scan hls', List.map_map]
    rfl
  rw [← hspellings', List.forall₂_map_right_iff] at hmakes
  rw [← List.forall₂_eq_eq_eq, List.forall₂_map_left_iff, List.forall₂_map_right_iff] at hvalues
  exact hvalues.flip.mp (fun l l' hvalue hmake => ⟨hvalue, hmake⟩) hmakes

end Piece

/-- **A bulk respelling is exact.**  The edits of a policy for all literals of a delimited text are
    good and in order, whatever the policy is about and whatever the guard looks for.  The text that they
    give has the literals of the first text, one for one, each with its value.  A literal that the policy
    is about and that the guard allows is written in the base; each other one has the spelling that it
    had.  What stands in front of the literals, between them and behind them stays. -/
theorem bulk_respelling_exact {t : Text} (ht : Literal.Delimited t) {p : Policy} (hp : p.scope = .all)
    (g : Guard) {es : List Edit} (hes : p.edits g t = .ok es) :
    Edit.check t es = .ok es ∧ ∃ u ls ls', Edit.applyAll t es = .ok u ∧
      scan t = .ok ls ∧ scan u = .ok ls' ∧
      List.Forall₂ (fun l l' => l'.value = l.value ∧
        if p.isAbout l ∧ g.allows t l.start then Numeral.write p.base l.value = .ok l'.spelling
        else l'.spelling = l.spelling) ls ls' ∧
      Literal.gaps u ls' = Literal.gaps t ls := by
  obtain ⟨ps, last, rfl, hps⟩ := Piece.exists_spaced ht
  obtain ⟨rs, hrs, rfl⟩ := Policy.exists_choices hp (Piece.spellings_fill hps) hes
  obtain ⟨ls, ls', hls, hls', hspaced, hsame⟩ := Piece.exists_scans hps hrs
  have hlen := Piece.length_choices hrs
  refine ⟨Piece.check_changes last ps rs, _, ls, ls', Piece.applyAll_changes last hlen, hls, hls',
    hsame, ?_⟩
  rw [Literal.gaps_fill hps hls, Literal.gaps_fill hspaced hls',
    Piece.map_gap_refill (Piece.length_chosen hlen)]

/-- Of three literals with the value ten one follows a keyword and stays, and the others are written
    anew; a fourth has another value. -/
theorem bulk_respelling_exact_three_tens :
    let t := "10;\treturn 10, 0xA 7".toList
    let p : Policy := ⟨.binary, .all, .value, "10".toList, 0, 2, 10⟩
    let es : List Edit := [⟨0, 2, "0b1010".toList⟩, ⟨15, 18, "0b1010".toList⟩]
    Literal.Delimited t ∧ p.scope = .all ∧ p.edits .default t = .ok es ∧ Edit.check t es = .ok es ∧
      ∃ u ls ls', Edit.applyAll t es = .ok u ∧ u = "0b1010;\treturn 10, 0b1010 7".toList ∧
        scan t = .ok ls ∧ scan u = .ok ls' ∧
        List.Forall₂ (fun l l' => l'.value = l.value) ls ls' ∧
        Literal.gaps u ls' = Literal.gaps t ls := by
  intro t p es
  have ht : Literal.Delimited t := by decide +kernel
  have hes : p.edits .default t = .ok es := by decide +kernel
  obtain ⟨hcheck, u, ls, ls', hu, hls, hls', hsame, hgaps⟩ := bulk_respelling_exact ht rfl .default hes
  have hu' : Edit.applyAll t es = .ok "0b1010;\treturn 10, 0b1010 7".toList := by decide +kernel
  exact ⟨ht, rfl, hes, hcheck, u, ls, ls', hu, Except.ok.inj (hu.symm.trans hu'), hls, hls',
    hsame.imp fun l l' h => h.1, hgaps⟩

end Respell
