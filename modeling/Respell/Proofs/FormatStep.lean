/-
  What a step of the format leaves behind.

  A session takes the next format and then respells the document in it.  A document is respelled as a
  whole or not at all, but the step of the format is not taken back if that fails.

  1. **The pass** (`respellAll_of_allFit`, `respellAll_of_not_allFit`).  Its edits are always good, so
     that it depends on the literals alone whether it is made: all have to be read and to be written in
     the new base.  If it is not made the document is the same in every respect.

  2. **The step** (`format_step`) is taken in either case.
-/
import Respell.Proofs.Dialog
import Respell.Proofs.Limits

namespace Respell.Session

variable {s : Session} {d : Document}

/-! ## The pass -/

/-- There are as many results as there are members, if all of them have one. -/
theorem length_of_allOf_map {ε α β : Type} {f : α → Except ε β} {as : List α} {bs : List β}
    (h : allOf (as.map f) = .ok bs) : bs.length = as.length := by
  simpa using (congrArg List.length (eq_map_ok_of_allOf h)).symm

/-- A pass makes one edit for each literal. -/
theorem length_cycleEdits {b : Base} {t : Text} {ls : List Literal} {es : List Edit}
    (hls : Literal.scan t = .ok ls) (hes : cycleEdits b t = .ok es) : es.length = ls.length := by
  rw [Literal.scan, Literal.readAll_eq] at hls
  rw [cycleEdits_eq] at hes
  rw [length_of_allOf_map hls, length_of_allOf_map hes]

/-- **The pass** is made if all literals can be read and written. -/
theorem respellAll_of_allFit (hin : d.CursorInside) (h : AllFit s.format d.text) :
    ∃ ls u d', Literal.scan d.text = .ok ls ∧ cycleText s.format d.text = .ok u ∧
      s.respellAll d = .done d' ls.length ∧ d'.text = u := by
  obtain ⟨ls, hls⟩ := exists_scan_iff.2 h.allReadable
  obtain ⟨es, hes⟩ := exists_cycleEdits_iff.2 h
  obtain ⟨u, hu⟩ := exists_applyAll_of_pass hes
  obtain ⟨d', hrun, htext⟩ := exists_applyMade hin hu
  refine ⟨ls, u, d', hls, ?_, ?_, htext⟩
  · rw [cycleText_of_ok hes, hu]
    rfl
  · rw [respellAll, hes, ← length_cycleEdits hls hes]
    exact hrun

/-- If one cannot, the document stays as it is. -/
theorem respellAll_of_not_allFit (h : ¬ AllFit s.format d.text) :
    ∃ n, cycleEdits s.format d.text = .error n ∧ s.respellAll d = .failed d (.numeral n) := by
  cases hes : cycleEdits s.format d.text with
  | ok es => exact absurd (exists_cycleEdits_iff.1 ⟨es, hes⟩) h
  | error n =>
    refine ⟨n, rfl, ?_⟩
    rw [respellAll, hes]
    rfl

/-! ## The step -/

/-- **The step of the format.**  If all literals of a document whose cursor stands inside can be read and
    written in the next base, the result is their number, the document has the text of the pass, and the
    session the next format.  If one of them cannot, the step fails for this reason, and the document
    stays as it is in every respect; but the session has the next format all the same, which is another
    one than before. -/
theorem format_step (s : Session) (hin : d.CursorInside) :
    (AllFit s.format.next d.text → ∃ ls u d',
      Literal.scan d.text = .ok ls ∧ cycleText s.format.next d.text = .ok u ∧
        s.toggleFormat d = .done ({ s with format := s.format.next }, d') ls.length ∧ d'.text = u) ∧
    (¬ AllFit s.format.next d.text → ∃ n, cycleEdits s.format.next d.text = .error n ∧
      s.toggleFormat d = .failed ({ s with format := s.format.next }, d) (.numeral n) ∧
        s.format.next ≠ s.format) := by
  constructor
  · intro h
    obtain ⟨ls, u, d', hls, hu, hrun, htext⟩ := respellAll_of_allFit (s := s.advance) hin h
    refine ⟨ls, u, d', hls, hu, ?_, htext⟩
    rw [toggleFormat, hrun]
    rfl
  · intro h
    obtain ⟨n, hes, hrun⟩ := respellAll_of_not_allFit (s := s.advance) h
    refine ⟨n, hes, ?_, ?_⟩
    · rw [toggleFormat, hrun]
      rfl
    · cases s.format <;> decide

/-- From hex to binary. -/
theorem format_step_two_numbers :
    let s : Session := .start Settings.default none
    let d : Document := .ofText "0x5, 2".toList
    d.CursorInside ∧ ∃ d', s.toggleFormat d = .done ({ s with format := .binary }, d') 2 ∧
      d'.text = "0b101, 0b10".toList := by
  intro s d
  have hin : d.CursorInside := (Document.Opened.fresh _).sound.inside
  have hfit : AllFit s.format.next d.text := by
    have hes : cycleEdits .binary d.text = .ok [⟨0, 3, "0b101".toList⟩, ⟨5, 6, "0b10".toList⟩] := by
      decide +kernel
    exact exists_cycleEdits_iff.1 ⟨_, hes⟩
  obtain ⟨ls, u, d', hls, hu, hrun, rfl⟩ := (format_step s hin).1 hfit
  have hscan : Literal.scan d.text = .ok [⟨"0x5".toList, 0, 5⟩, ⟨"2".toList, 5, 2⟩] := by
    decide +kernel
  have htext : cycleText .binary d.text = .ok "0b101, 0b10".toList := by decide +kernel
  obtain rfl := Except.ok.inj (hls.symm.trans hscan)
  exact ⟨hin, d', hrun, Except.ok.inj (hu.symm.trans htext)⟩

/-- A number that is too long makes the step fail, and the format is another one behind it. -/
theorem format_stepped_in_failure :
    let s : Session := .start Settings.default none
    let d : Document := .ofText ones
    d.CursorInside ∧
      (s.toggleFormat d).result = .error (.numeral (.tooLongToRead 4301)) ∧
      (s.toggleFormat d).state.2 = d ∧ (s.toggleFormat d).state.1.format ≠ s.format := by
  intro s d
  have hes : cycleEdits .binary d.text = .error (.tooLongToRead 4301) := by
    rw [cycleEdits, Document.text_ofText, readAll_ones]
    rfl
  have hrun : s.advance.respellAll d = .failed d (.numeral (.tooLongToRead 4301)) := by
    rw [respellAll]
    show applyMade d ((cycleEdits .binary d.text).mapError .numeral) = _
    rw [hes]
    rfl
  rw [toggleFormat, hrun]
  exact ⟨(Document.Opened.fresh _).sound.inside, rfl, rfl, by decide⟩

end Respell.Session
