/-
  What a log does to the other files.

  A log may be kept in any file, also in the very one that a job reads and writes.  Whatever a console
  notes, the other files stay as they are, and what was in that one stays in front of what is added
  (`Console.Logged`).  This is kept by each text that is put into the log, and so by all notes, by the
  reading of the settings and by the set-up of the log itself (`read_of_prepare`).
-/
import Respell.CommandLine
import Respell.Proofs.FileTree

namespace Respell.CommandLine

namespace Console

variable {file : String} {c c' c'' : Console} {old : List UInt8}

/-- Whether the log is kept in a file that is there. -/
def LogsTo (c : Console) (file : String) : Prop :=
  ∃ path, c.log = .file path ∧ c.files.place path = c.files.place file

/-- Whether nothing has happened to a file but that the log, if it is kept there, has grown. -/
structure Logged (file : String) (c c' : Console) : Prop where
  read : ∀ old, c.files.read file = .ok old → ∃ added, c'.files.read file = .ok (old ++ added) ∧
    (¬ c.LogsTo file → added = [])
  logsTo : ∀ old, c.files.read file = .ok old → (c'.LogsTo file ↔ c.LogsTo file)

theorem Logged.refl (file : String) (c : Console) : Logged file c c :=
  ⟨fun old h => ⟨[], by rw [List.append_nil]; exact h, fun _ => rfl⟩, fun _ _ => Iff.rfl⟩

theorem Logged.trans (h : Logged file c c') (h' : Logged file c' c'') : Logged file c c'' := by
  constructor
  · intro old hold
    obtain ⟨added, hread, hnone⟩ := h.read old hold
    obtain ⟨more, hread', hnone'⟩ := h'.read _ hread
    refine ⟨added ++ more, by rw [hread', List.append_assoc], fun hlog => ?_⟩
    rw [hnone hlog, hnone' fun hlog' => hlog ((h.logsTo old hold).1 hlog'), List.append_nil]
  · intro old hold
    obtain ⟨added, hread, -⟩ := h.read old hold
    exact (h'.logsTo _ hread).trans (h.logsTo old hold)

/-- A console whose files are the same. -/
theorem Logged.of_files (hfiles : c'.files = c.files) (hlog : c'.log = c.log) : Logged file c c' := by
  constructor
  · intro old hold
    rw [hfiles]
    exact (Logged.refl file c).read old hold
  · intro old _
    rw [LogsTo, LogsTo, hfiles, hlog]

/-- **One text** that is put into a log in a file. -/
theorem Logged.of_append {path : String} {bytes : List UInt8} {fs : Files} (hlog : c.log = .file path)
    (h : c.files.append path bytes = .ok fs) : Logged file c { c with files := fs } := by
  constructor
  · intro old hold
    obtain ⟨added, hread, hnone⟩ := Files.read_append h hold
    exact ⟨added, hread, fun hapart => hnone fun hplace => hapart ⟨path, hlog, hplace⟩⟩
  · -- Where the two names lead does not change, since both lead to a file by now.
    intro old hold
    obtain ⟨more, hmore⟩ := Files.exists_write_of_append h
    obtain ⟨p, hfile, -⟩ := Files.read_eq_ok_iff.1 hold
    obtain ⟨q, hpath, -⟩ := Files.write_eq_ok hmore
    have hsame : fs.place path = fs.place file ↔ c.files.place path = c.files.place file := by
      rw [Files.place_write hmore hfile, Files.place_write hmore hpath, hfile, hpath]
    constructor
    · rintro ⟨path', hpath', hplace⟩
      obtain rfl : path = path' := LogTarget.file.inj (hlog.symm.trans hpath')
      exact ⟨path, hlog, hsame.1 hplace⟩
    · rintro ⟨path', hpath', hplace⟩
      obtain rfl : path = path' := LogTarget.file.inj (hlog.symm.trans hpath')
      exact ⟨path, hlog, hsame.2 hplace⟩

theorem logged_append (file : String) (c : Console) (t : Text) : Logged file c (c.append t) := by
  unfold append
  split
  · exact .refl file c
  · exact .of_files rfl rfl
  · split
    · exact .of_append ‹_› ‹_›
    · exact .refl file c

theorem logged_note (file : String) (c : Console) (ns : List Note) : Logged file c (c.note ns) := by
  unfold note
  generalize Note.atLeast c.least ns = ns
  generalize c.time = time
  induction ns generalizing c with
  | nil => exact .refl file c
  | cons n ns ih => exact (logged_append file c _).trans (ih _)

theorem logged_loadSettings (file : String) (c : Console) (config : Option (Given String)) :
    Logged file c (c.loadSettings config).state := by
  unfold loadSettings
  split
  · exact .refl file c
  · exact logged_note file c _

/-- What was in a file is still there when the log has been set up. -/
theorem read_of_withLog {log : LogTarget} {least : Level} (h : c.withLog log least = .ok c')
    (hold : c.files.read file = .ok old) :
    ∃ added, c'.files.read file = .ok (old ++ added) ∧ (¬ c'.LogsTo file → added = []) := by
  unfold withLog at h
  split at h
  · rename_i path
    obtain ⟨fs, hfs, rfl⟩ := exists_of_map_eq_ok h
    have hlogged : Logged file { c with log := .file path, least } _ := .of_append rfl hfs
    obtain ⟨added, hread, hnone⟩ := hlogged.read old hold
    exact ⟨added, hread, fun hapart => hnone fun hlog => hapart ((hlogged.logsTo old hold).2 hlog)⟩
  · obtain rfl := Except.ok.inj h
    exact ⟨[], by rw [List.append_nil]; exact hold, fun _ => rfl⟩

end Console

variable {file : String} {c c' : Console} {a : Arguments} {arguments : List String} {old : List UInt8}

/-- **What was in a file** when the program was started is still there when a job begins. -/
theorem read_of_prepare (h : prepare c arguments = .ok (c', a)) (hold : c.files.read file = .ok old) :
    ∃ added, c'.files.read file = .ok (old ++ added) ∧ (¬ c'.LogsTo file → added = []) := by
  unfold prepare at h
  split at h
  · cases h
  · split at h
    · cases h
    · rename_i hlog
      obtain ⟨rfl, rfl⟩ := Prod.mk.inj (Except.ok.inj h)
      exact Console.read_of_withLog hlog hold

end Respell.CommandLine
