/-
  The command line and the editor write the same file.

  A file can be converted by a run of the program, or in the editor: it is read, the conversion is made in
  the document, and the document is saved.  The run works on the whole text, and the editor on lines
  without the last newline, which it puts back.

  1. **Documents** (`Document.Gets`).  A conversion gives a document what edits make of its text, or fails
     and leaves it as it is.  Its name and the newline at its end stay, so that it is saved under the name
     that it was read from (`exists_save`).

  2. **Both ways** (`SameFile`).  Either both ways are gone to the end, and the bytes of the file are the
     same, or both fail for the same reason, and neither has changed the file.

  3. **The crux** (`sameFile_of_carries`).  What is made of the text with its last newline is what is made
     of the lines, with that newline behind it.
-/
import Respell.Proofs.Dialog
import Respell.Proofs.FinalNewline
import Respell.Proofs.InPlace
import Respell.Proofs.UnsavedMark

namespace Respell

/-! ## Documents -/

namespace Document

variable {d : Document} {file : String} {fs : Files} {old : List UInt8}

/-- Whether an operation gives a document a text, or fails because the text cannot be made and leaves the
    document as it is. -/
def Gets (d : Document) (made : Except RespellingError Text) (w : Attempt Document Failure Nat) : Prop :=
  match made with
  | .ok u => ∃ n d', w = .done d' n ∧ d'.text = u ∧ d.SameFiling d'
  | .error e => w = .failed d (.ofRespelling e)

/-- **Edits that may have failed to be made** give what they make of the text. -/
theorem gets_applyMade (hin : d.CursorInside) (made : Except NumeralError (List Edit)) :
    d.Gets (madeText made d.text) (Session.applyMade d (made.mapError .numeral)) := by
  cases made with
  | error e => rfl
  | ok es =>
    show d.Gets ((Edit.applyAll d.text es).mapError .edit) (Session.applyMade d (.ok es))
    cases hu : Edit.applyAll d.text es with
    | error e =>
      show Session.applyMade d (.ok es) = .failed d (.edit e)
      rw [Session.applyMade, applyEdits_failed hu]
      rfl
    | ok u =>
      obtain ⟨d', hrun, htext⟩ := exists_applyEdits hin hu
      have hsame := d.sameFiling_applyEdits es
      rw [hrun] at hsame
      refine ⟨es.length, d', ?_, htext, hsame⟩
      rw [Session.applyMade, hrun]
      rfl

/-- **A request for all literals** gives what its policy makes of the text. -/
theorem gets_replace (hin : d.CursorInside) (s : Session) {r : Request} {p : Policy}
    (hp : r.policy d.text (some d.cursor) = .ok (some p)) :
    d.Gets (p.respelledText s.guard d.text) (s.replace d r) := by
  rw [Session.replace_of_policy hp]
  exact gets_applyMade hin (p.edits s.guard d.text)

/-- **The next format** gives the text with every literal in it. -/
theorem gets_toggleFormat (hin : d.CursorInside) (s : Session) :
    d.Gets (cycleText s.format.next d.text)
      ⟨(s.toggleFormat d).state.2, (s.toggleFormat d).result⟩ :=
  gets_applyMade hin (cycleEdits s.format.next d.text)

/-- **A document that was read from a file** has its text but for the newline at its end, and is kept as
    the file was. -/
theorem load_of_read (d : Document) (hold : fs.read file = .ok old) :
    (d.load fs file).result = .ok () ∧ (d.load fs file).state.CursorInside ∧
      (d.load fs file).state.filename = some file ∧
      (d.load fs file).state.written = Utf8.decodeLossy old := by
  have hresult : (d.load fs file).result = .ok () := by
    unfold load
    simp only [hold]
    rfl
  obtain ⟨language, hstate⟩ := d.state_load hold
  rw [hstate]
  refine ⟨hresult, ?_, rfl, ?_⟩
  · have hfresh := (Opened.fresh (withoutFinalNewline (Utf8.decodeLossy old)).1).sound.inside
    exact hfresh.congr rfl rfl rfl
  · show Text.unlines (Text.lines (withoutFinalNewline (Utf8.decodeLossy old)).1) ++ _ = _
    rw [Text.unlines_lines]
    exact withoutFinalNewline_append _

theorem ne_empty_of_read (hold : fs.read file = .ok old) : file ≠ "" := by
  rintro rfl
  obtain ⟨p, hplace, -⟩ := Files.read_eq_ok_iff.1 hold
  cases hplace

/-- **A document is saved** under the name that it was read from. -/
theorem exists_save (hname : d.filename = some file) (hold : fs.read file = .ok old) :
    ∃ d' fs', d.save fs none = .ok (some (d', fs')) ∧ fs'.read file = .ok d.content := by
  have hsaveName : d.saveName none = some file := by
    have hne : d.filename ≠ some "" := by
      rw [hname]
      exact fun h => ne_empty_of_read hold (Option.some.inj h)
    rw [saveName, if_neg hne, hname]
  obtain ⟨fs', hfs'⟩ := Files.exists_write hold d.content
  refine ⟨{ d with filename := some file, modified := false }, fs', ?_, Files.read_write hfs'⟩
  rw [save, hsaveName]
  dsimp only
  rw [hfs']
  rfl

end Document

/-! ## Both ways -/

namespace CommandLine

open Document (written content_eq_encode_written)

variable {file : String} {fs : Files} {old : List UInt8} {c c' : Console} {a : Arguments}
  {arguments : List String} {seen : List (List Group)} {d d' : Document}

/-- Whether a run and a conversion in the editor come to the same: both have left the same bytes in the
    file, or both have failed for the same reason, when the file of the run is what it was.  The files of
    the editor do not change before the document is saved. -/
def SameFile (r : Run) (file : String) (old : List UInt8) (fs : Files) (d : Document)
    (result : Except Failure Nat) : Prop :=
  (∃ n d' fs' bytes, result = .ok n ∧ d.save fs none = .ok (some (d', fs')) ∧ r.ending = .finished ∧
    fs'.read file = .ok bytes ∧ r.console.files.read file = .ok bytes) ∨
  ∃ e, result = .error e ∧ r.ending = .failed e ∧ r.console.files.read file = .ok old

theorem finish_of_numeral {w : Work} {n : NumeralError} (h : w.result = .error (.numeral n)) :
    (finish w seen).ending = .failed (.numeral n) ∧
      (finish w seen).console.files = w.state.files := by
  unfold finish endOf
  rw [h]
  exact ⟨rfl, rfl⟩

/-- **The crux.**  Work that carries what is made of the whole text agrees with the document that gets
    what is made of its lines. -/
theorem sameFile_of_carries (make : Text → Except RespellingError Text)
    (happend : ∀ x t, Quiet x → make (t ++ x) = (make t).map (· ++ x))
    (hnumeral : ∀ t e, make t = .error e → ∃ n, e = .numeral n)
    (hold : c.files.read file = .ok old) (hapart : ¬ c.LogsTo file) (hfs : fs.read file = .ok old)
    (hname : d.filename = some file) (hwritten : d.written = Utf8.decodeLossy old) {w : Work}
    (hw : c.Carries file (make (Utf8.decodeLossy old)) w) {edited : Attempt Document Failure Nat}
    (hedited : d.Gets (make d.text) edited) :
    SameFile (finish w seen) file old fs edited.state edited.result := by
  have hquiet : Quiet (if d.finalNewline then ['\n'] else []) := by
    split
    · exact quiet_newline
    · exact quiet_nil
  have hmade := happend _ d.text hquiet
  have htext : d.text ++ (if d.finalNewline then ['\n'] else []) = Utf8.decodeLossy old := hwritten
  rw [htext] at hmade
  rw [hmade] at hw
  cases hu : make d.text with
  | ok u =>
    rw [hu] at hw hedited
    obtain ⟨hok, hread⟩ := hw
    obtain ⟨n, d', rfl, rfl, hname', hfinal⟩ := hedited
    obtain ⟨d'', fs', hsave, hsaved⟩ := Document.exists_save (hname'.trans hname) hfs
    refine .inl ⟨n, d'', fs', d'.content, rfl, hsave, ?_, hsaved, ?_⟩
    · rw [finish_of_ok hok]
    · rw [finish_of_ok hok, hread, content_eq_encode_written, ← hfinal]
      rfl
  | error e =>
    obtain ⟨n, rfl⟩ := hnumeral _ _ hu
    rw [hu] at hw hedited
    obtain ⟨herror, hlogged⟩ := hw
    obtain ⟨added, hread, hnone⟩ := hlogged.read old hold
    rw [hnone hapart, List.append_nil] at hread
    obtain rfl : edited = .failed d (.numeral n) := hedited
    refine .inr ⟨.numeral n, rfl, ?_, ?_⟩
    · rw [(finish_of_numeral herror).1]
    · rw [(finish_of_numeral herror).2, hread]

/-- **The command line and the editor write the same file.**  A run that converts a file in place, all
    literals like a given one under the guard of its settings or all literals at all, comes to the same as
    the editor with these settings, or with the format in front of the base, when it reads a file with the
    same bytes, converts and saves.  The log of the run is not kept in the file.  There are no permissions:
    what can be read can be written. -/
theorem same_file_both_ways (hprepared : prepare c arguments = .ok (c', a))
    (hold : c.files.read file = .ok old) (hapart : ¬ c'.LogsTo file) (t : Terminal) (d : Document)
    (hfs : fs.read file = .ok old) (session : Session) (b : Base) :
    let d' := (d.load fs file).state
    (d.load fs file).result = .ok () ∧
    (∀ l value equivalent start,
      a.job = .replace file (.value l) (.value b) true equivalent start true →
      Numeral.read l.toList = .ok (some value) →
      (c'.loadSettings a.config).result = .ok session.settings →
      let edited := session.replace d' ⟨value, b.code, l.toList, none, true, equivalent⟩
      SameFile (run c t arguments) file old fs edited.state edited.result) ∧
    (a.job = .cycle file (.value b) true → session.format.next = b →
      let edited := session.toggleFormat d'
      SameFile (run c t arguments) file old fs edited.state.2 edited.result) := by
  intro d'
  obtain ⟨hload, hin, hname, hwritten⟩ := d.load_of_read hfs
  -- The log is elsewhere, so that the job finds the file as it was.
  obtain ⟨added, hread, hnone⟩ := read_of_prepare hprepared hold
  rw [hnone hapart, List.append_nil] at hread
  refine ⟨hload, ?_, ?_⟩
  · intro l value equivalent start hjob hvalue hsettings edited
    obtain ⟨more, hread', hnone'⟩ := (Console.logged_loadSettings file c' a.config).read old hread
    rw [hnone' hapart, List.append_nil] at hread'
    have hrun : run c t arguments = finish
        (c'.replace a.config file (.value l) (.value b) true equivalent start true) [] := by
      rw [run_of_prepare hprepared, Console.carryOut, hjob]
    have hpolicy := Request.policy_all b value l.toList none equivalent d'.text (some d'.cursor)
    rw [hrun]
    refine sameFile_of_carries
      ((Console.policyForAll b equivalent l value).respelledText session.guard)
      (fun x t hx => respelledText_append hx rfl session.guard t) (fun t e => ?_) hread hapart hfs hname
      hwritten (Console.carries_replace_all hsettings hread' hvalue b equivalent start)
      (Document.gets_replace hin session hpolicy)
    exact error_of_madeText fun es hes => Policy.exists_applyAll_of_edits rfl hes
  · intro hjob hformat edited
    have hrun : run c t arguments = finish (c'.cycle file (.value b) true) [] := by
      rw [run_of_prepare hprepared, Console.carryOut, hjob]
    have hgets := Document.gets_toggleFormat hin session
    rw [hformat] at hgets
    rw [hrun]
    refine sameFile_of_carries (cycleText b) (fun x t hx => cycleText_append hx b t)
      (fun t e => ?_) hread hapart hfs hname hwritten (Console.carries_cycle hread b) hgets
    exact error_of_madeText fun es => exists_applyAll_of_pass

/-- A literal behind a keyword and one that ends in front of the last newline, converted like each other
    and in a pass over all of them. -/
theorem same_file_both_ways_newline :
    let old := Utf8.encode "return 10, 0xA 10\n".toList
    let c : Console := .start ⟨[("HOME", "/h")], [], 9⟩ ⟨[(["f"], .file old)]⟩ ""
    let d := ((Document.ofText []).load c.files "f").state
    let session : Session := .start Settings.default none
    let replaced := run c ⟨.nan, 24, 80, [], fun _ => .none⟩ ["replace", "f", "10", "--to", "bin", "--all", "--in-place"]
    let cycled := run c ⟨.nan, 24, 80, [], fun _ => .none⟩ ["cycle", "f", "--to", "bin", "--in-place"]
    let edited := session.replace d ⟨10, "bin", "10".toList, none, true, false⟩
    let toggled := session.toggleFormat d
    SameFile replaced "f" old c.files edited.state edited.result ∧
      SameFile cycled "f" old c.files toggled.state.2 toggled.result ∧
      edited.result = .ok 1 ∧ toggled.result = .ok 3 ∧
      replaced.console.files.read "f" = .ok (Utf8.encode "return 10, 0xA 0b1010\n".toList) ∧
      cycled.console.files.read "f" = .ok (Utf8.encode "return 0b1010, 0b1010 0b1010\n".toList) := by
  intro old c d session replaced cycled edited toggled
  let c' : Console := { c with log := .errors }
  have hold : c.files.read "f" = .ok old := by decide +kernel
  have hapart : ¬ c'.LogsTo "f" := by
    rintro ⟨path, hpath, -⟩
    cases hpath
  have hreplace : prepare c ["replace", "f", "10", "--to", "bin", "--all", "--in-place"] =
      .ok (c', ⟨none, false, none, .replace "f" (.value "10") (.value .binary) true false none true⟩) := by
    decide +kernel
  have hcycle : prepare c ["cycle", "f", "--to", "bin", "--in-place"] =
      .ok (c', ⟨none, false, none, .cycle "f" (.value .binary) true⟩) := by
    decide +kernel
  have hsettings : (c'.loadSettings none).result = .ok session.settings := by decide +kernel
  have hvalue : Numeral.read "10".toList = .ok (some 10) := by decide +kernel
  obtain ⟨-, hreplaced, -⟩ := same_file_both_ways hreplace hold hapart ⟨.nan, 24, 80, [], fun _ => .none⟩
    (Document.ofText []) hold session .binary
  obtain ⟨-, -, hcycled⟩ := same_file_both_ways hcycle hold hapart ⟨.nan, 24, 80, [], fun _ => .none⟩
    (Document.ofText []) hold session .binary
  exact ⟨hreplaced "10" 10 false none rfl hvalue hsettings, hcycled rfl rfl, by decide +kernel,
    by decide +kernel, by decide +kernel, by decide +kernel⟩

end CommandLine

end Respell
