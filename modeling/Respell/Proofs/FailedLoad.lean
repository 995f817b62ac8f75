/-
  A file that cannot be read.

  A document takes the name of a file and gives up its history, its mark and its cursor before it looks for
  the file.  If there is none, its old lines are all that is left.

  1. **When there is none** (`load_error_iff`).  A name leads to a file, or to a directory, or nowhere, and
     only the first can be read.  The error is the one of the file.

  2. **What is left** (`reset_eq_self_iff`).  The lines, the language and the newline at the end stay, so that
     the same bytes would be written.  The rest is what a document has that was just read.

  3. **The history is gone.**  Such a document stands for the history of its text alone
     (`Simulates.reset`), so no call brings back a text from before.

  4. **The law** (`failed_load`).  Nothing is lost only if there was nothing to lose: the document had
     this name already, was not marked, had nothing to undo or redo, and its cursor at the start.
-/
import Respell.Proofs.SameBytes

namespace Respell

namespace Document

variable {d : Document} {fs : Files} {name : String} {e : FileError}

/-! ## When there is no file -/

theorem load_error (h : fs.read name = .error e) (d : Document) :
    d.load fs name = .failed (d.reset name) e := by
  rw [load, h]

/-- **Reading fails** if the name leads to no file, for the reason that the files have. -/
theorem load_error_iff : (d.load fs name).result = .error e ↔ fs.read name = .error e := by
  cases hread : fs.read name with
  | error x =>
    rw [load_error hread, Attempt.failed, Except.error.injEq, Except.error.injEq]
  | ok bytes =>
    rw [(d.load_of_read hread).1]
    exact ⟨nofun, nofun⟩

/-! ## What is left -/

/-- What is left is saved under the new name. -/
theorem saveName_reset {n : String} (h : (d.reset name).saveName none = some n) : n = name := by
  unfold saveName at h
  dsimp only at h
  split at h
  · cases h
  · exact (Option.some.inj h).symm

/-- A document that has given everything up is as it was if it had nothing to give up. -/
theorem reset_eq_self_iff : d.reset name = d ↔
    d.filename = some name ∧ d.modified = false ∧ d.line = 0 ∧ d.column = 0 ∧ d.past = [] ∧
      d.future = [] := by
  obtain ⟨lines, line, column, past, future, modified, filename, language, finalNewline⟩ := d
  simp only [reset, mk.injEq, true_and, and_true]
  constructor
  · rintro ⟨rfl, rfl, rfl, rfl, rfl, rfl⟩
    exact ⟨rfl, rfl, rfl, rfl, rfl, rfl⟩
  · rintro ⟨rfl, rfl, rfl, rfl, rfl, rfl⟩
    exact ⟨rfl, rfl, rfl, rfl, rfl, rfl⟩

end Document

/-- **The history is gone**: what is left stands for the history of one text. -/
theorem Simulates.reset {d : Document} (hne : d.lines ≠ []) (hnl : ∀ l ∈ d.lines, '\n' ∉ l)
    (name : String) : Simulates (d.reset name) (.start d.text) where
  lines := (Text.lines_unlines hne hnl).symm
  past := .nil _
  future := .nil _
  bounded := Nat.zero_le _
  line_nonneg := Int.le_refl 0

namespace Document

/-- **A file that cannot be read leaves only the lines.**  Reading fails if, and only if, the name leads to
    no file, in a tree without permissions; and whatever the error is, then
    (1) the lines, the language and the bytes that would be written are what they were;
    (2) the document has the new name and no mark, and its cursor is at the start;
    (3) in any run from there it goes through the history of its text alone, so that nothing that was done
        before can be undone or redone;
    (4) saved again, it puts the old text where the file was not found;
    (5) it is what it was only if it had this name, no mark, no history and its cursor at the start. -/
theorem failed_load (d : Document) (fs : Files) (name : String) :
    ((∃ e, (d.load fs name).result = .error e) ↔ ∀ p bytes, fs.place name = .ok p →
      fs.entry? p = some (.file bytes) → Files.endOf name ≠ .name) ∧
    ∀ e d', d.load fs name = .failed d' e →
      (d'.lines = d.lines ∧ d'.language = d.language ∧ d'.content = d.content) ∧
      (d'.filename = some name ∧ d'.modified = false ∧ d'.line = 0 ∧ d'.column = 0) ∧
      (d.lines ≠ [] → (∀ l ∈ d.lines, '\n' ∉ l) → ∀ ops : List Operation,
        let h := (TextHistory.start d.text).stepAll ops
        (Operation.runAll d' ops).lines = Text.lines h.present ∧
          ∀ op : Operation, (op.run (Operation.runAll d' ops)).result = h.answer op) ∧
      (∀ fs₁ d'' fs', d'.save fs₁ none = .ok (some (d'', fs')) → fs'.read name = .ok d.content) ∧
      (d' = d ↔ d.filename = some name ∧ d.modified = false ∧ d.line = 0 ∧ d.column = 0 ∧
        d.past = [] ∧ d.future = []) := by
  refine ⟨?_, fun e d' hload => ?_⟩
  · constructor
    · rintro ⟨e, he⟩ p bytes hplace hentry hname
      have hread : fs.read name = .ok bytes := Files.read_eq_ok_iff.2 ⟨p, hplace, hentry, hname⟩
      rw [load_error_iff, hread] at he
      cases he
    · intro hnone
      cases hread : fs.read name with
      | error e => exact ⟨e, load_error_iff.2 hread⟩
      | ok bytes =>
        obtain ⟨p, hplace, hentry, hname⟩ := Files.read_eq_ok_iff.1 hread
        exact absurd hname (hnone p bytes hplace hentry)
  · have hread : fs.read name = .error e := load_error_iff.1 (congrArg Attempt.result hload)
    -- what is left does not depend on the reason
    obtain rfl : d' = d.reset name := by
      rw [load_error hread] at hload
      exact (congrArg Attempt.state hload).symm
    refine ⟨⟨rfl, rfl, rfl⟩, ⟨rfl, rfl, rfl, rfl⟩, fun hne hnl ops => ?_, fun fs₁ d'' fs' hsave => ?_,
      reset_eq_self_iff⟩
    · have hs := Operation.simulates_runAll (Simulates.reset hne hnl name) ops
      exact ⟨hs.lines, fun op => (Operation.keeps hs op).result⟩
    · obtain ⟨n, hn, -, hfile⟩ := read_save hsave
      obtain rfl : n = name := saveName_reset hn
      exact hfile

/-- A directory with the name: what was typed cannot be undone any more, and is saved under that name. -/
theorem failed_load_directory :
    let fs : Files := ⟨[(["f"], .directory)]⟩
    let d := ((ofText ['a']).insert 0 1 ['b']).state
    let d' := (d.load fs "f").state
    d.load fs "f" = .failed d' ⟨.isDirectory, "f"⟩ ∧ d.past = [.line 0 ['a'] ['a', 'b']] ∧
      (Operation.runAll d' [.undo, .redo, .undo]).lines = [['a', 'b']] ∧
      (∃ d'' fs', d'.save .empty none = .ok (some (d'', fs')) ∧ fs'.read "f" = .ok [0x61, 0x62]) ∧
      ¬ d' = d := by
  intro fs d d'
  have hload : d.load fs "f" = .failed d' ⟨.isDirectory, "f"⟩ := by decide
  obtain ⟨-, hleft⟩ := failed_load d fs "f"
  obtain ⟨-, -, hhistory, hsaved, hsame⟩ := hleft _ d' hload
  obtain ⟨hlines, -⟩ := hhistory (by decide) (by decide) [.undo, .redo, .undo]
  have hsave : d'.save .empty none = .ok (some
      ({ d' with filename := some "f", modified := false }, ⟨[(["f"], .file [0x61, 0x62])]⟩)) := by
    decide
  refine ⟨hload, by decide, ?_, ⟨_, _, hsave, ?_⟩, fun h => ?_⟩
  · exact hlines
  · exact hsaved _ _ _ hsave
  · exact absurd (hsame.1 h).2.1 (by decide)

/-- **What was typed is left without its mark and its history**, under the name of a file that is not
    there. -/
theorem load_not_intact :
    let d := ((ofText ['a']).insert 0 1 ['b']).state
    ∃ d', d.load .empty "f" = .failed d' ⟨.missing, "f"⟩ ∧ d' ≠ d ∧ d'.lines = [['a', 'b']] ∧
      (d.modified = true ∧ d'.modified = false) ∧ (d.filename = none ∧ d'.filename = some "f") ∧
      (d.column = 2 ∧ d'.column = 0) ∧ d.past = [.line 0 ['a'] ['a', 'b']] ∧ d'.past = [] := by
  intro d
  exact ⟨(d.load .empty "f").state, by decide⟩

end Document

end Respell
