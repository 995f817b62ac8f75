/-
  What the mark of unsaved changes tells.

  Nothing ever compares a document with its file.  A change sets the mark, and reading and writing the
  file take it away.  Redo sets it, and undo sets it if there is more to undo and takes it away if
  there is not.  So undo takes the oldest text that it can go back to for the text of the file, and it
  is right about this only as long as nothing has come between the two.

  1. **The mark follows the history** (`TextHistory.mark`): what a call does to it can be read off the
     texts before and after the present one, without the records.

  2. **Runs with files** (`Filed`) have, beside the document and its history, the text that was read
     or written last.

  3. **The invariant** (`Filed.Sound`).  A marked document has something to undo.  One that is not
     marked has the text of its file, or nothing to undo.

  4. **The law** (`Filed.unmarked_tells`).  The mark tells the truth now, and however many changes are
     undone from now on, exactly if the oldest text is that of the file.  Two things can part them: the
     file is written while there is something to undo, or a change is recorded and there are a hundred
     already, of which the oldest is dropped.
-/
import Respell.Document.Storage
import Respell.Proofs.Filing
import Respell.Proofs.Presses

namespace Respell

open Text

/-! ## The mark and the history -/

namespace TextHistory

variable {h : TextHistory} {marked : Bool} {op : Operation}

/-- The oldest text that undo can go back to. -/
def oldest (h : TextHistory) : Text := h.past.getLastD h.present

/-- Whether a document is marked after a call, by its history and whether it was marked before. -/
def mark (h : TextHistory) (marked : Bool) : Operation → Bool
  | .undo => if h.past = [] then marked else !h.back.past.isEmpty
  | .redo => if h.future = [] then marked else true
  | op => (op.newText? h.present).isSome || marked

theorem back_of_past_nil (hpast : h.past = []) : h.back = h := by
  rw [back, hpast]

theorem forward_of_future_nil (hfuture : h.future = []) : h.forward = h := by
  rw [forward, hfuture]

theorem past_push_ne_nil (h : TextHistory) (t : Text) : (h.push t).past ≠ [] := by
  simp [push, Document.historyLimit]

/-- A call that has nothing to do leaves the mark. -/
theorem mark_of_idle (hidle : h.IsIdle op) : h.mark marked op = marked := by
  cases op
  case moveTo => rfl
  case undo => exact if_pos hidle
  case redo => exact if_pos hidle
  all_goals
    simp only [IsIdle] at hidle
    simp only [mark, hidle]
    rfl

theorem past_forward_ne_nil (hfuture : h.future ≠ []) : h.forward.past ≠ [] := by
  unfold forward
  split
  · contradiction
  · exact List.cons_ne_nil _ _

/-- A call that records a change sets the mark. -/
theorem mark_of_some {t : Text} (hnew : op.newText? h.present = some t) : h.mark marked op = true := by
  cases op
  case undo => cases hnew
  case redo => cases hnew
  all_goals
    simp only [mark, hnew]
    rfl

/-- **What a call does** to the history and to the mark. -/
theorem step_cases (h : TextHistory) (marked : Bool) (op : Operation) :
    (∃ t, op.newText? h.present = some t ∧ h.step op = h.push t ∧ h.mark marked op = true) ∨
      (h.past ≠ [] ∧ h.step op = h.back ∧ h.mark marked op = !h.back.past.isEmpty) ∨
      (h.future ≠ [] ∧ h.step op = h.forward ∧ h.mark marked op = true) ∨
      (h.step op = h ∧ h.mark marked op = marked) := by
  cases op
  case undo =>
    by_cases hpast : h.past = []
    · exact .inr (.inr (.inr ⟨back_of_past_nil hpast, if_pos hpast⟩))
    · exact .inr (.inl ⟨hpast, rfl, if_neg hpast⟩)
  case redo =>
    by_cases hfuture : h.future = []
    · exact .inr (.inr (.inr ⟨forward_of_future_nil hfuture, if_pos hfuture⟩))
    · exact .inr (.inr (.inl ⟨hfuture, rfl, if_neg hfuture⟩))
  all_goals
    unfold step mark
    dsimp only
    split
    · rename_i hnew
      exact .inr (.inr (.inr ⟨rfl, by rw [hnew]; rfl⟩))
    · rename_i t hnew
      exact .inl ⟨t, hnew, rfl, by rw [hnew]; rfl⟩

/-- The mark is there only if there is something to undo. -/
theorem past_ne_nil_of_mark (hmark : h.mark marked op = true) (hm : marked = true → h.past ≠ []) :
    (h.step op).past ≠ [] := by
  obtain ⟨t, -, hstep, -⟩ | ⟨-, hstep, hset⟩ | ⟨hfuture, hstep, -⟩ | ⟨hstep, hset⟩ :=
    h.step_cases marked op
  · rw [hstep]
    exact h.past_push_ne_nil t
  · rw [hset] at hmark
    rw [hstep]
    simpa using hmark
  · rw [hstep]
    exact past_forward_ne_nil hfuture
  · rw [hstep]
    exact hm (hset ▸ hmark)

/-- Without the mark, the call has had no effect, or there is nothing left to undo. -/
theorem step_of_not_mark (hmark : h.mark marked op = false) :
    (marked = false ∧ h.step op = h) ∨ (h.step op).past = [] := by
  obtain ⟨t, -, -, hset⟩ | ⟨-, hstep, hset⟩ | ⟨-, -, hset⟩ | ⟨hstep, hset⟩ := h.step_cases marked op
  · rw [hset] at hmark
    cases hmark
  · rw [hset] at hmark
    rw [hstep]
    exact .inr (by simpa using hmark)
  · rw [hset] at hmark
    cases hmark
  · exact .inl ⟨hset ▸ hmark, hstep⟩

/-! ### The oldest text -/

theorem oldest_back (h : TextHistory) : h.back.oldest = h.oldest := by
  unfold back
  split
  · rfl
  · rename_i a as hpast
    rw [oldest, oldest, hpast, List.getLastD_cons]

theorem oldest_forward (h : TextHistory) : h.forward.oldest = h.oldest := by
  unfold forward
  split
  · rfl
  · rw [oldest, oldest, List.getLastD_cons]

/-- A change keeps the oldest text while there is room for one more. -/
theorem oldest_push (hroom : h.past.length < Document.historyLimit) (t : Text) :
    (h.push t).oldest = h.oldest := by
  have hall : (h.present :: h.past).take Document.historyLimit = h.present :: h.past :=
    List.take_of_length_le (by rw [List.length_cons]; omega)
  rw [push, hall, oldest, oldest, List.getLastD_cons]

/-- The oldest text stays unless a change is recorded and there is no room for it. -/
theorem oldest_step
    (hroom : (op.newText? h.present).isSome → h.past.length < Document.historyLimit) :
    (h.step op).oldest = h.oldest := by
  obtain ⟨t, hnew, hstep, -⟩ | ⟨-, hstep, -⟩ | ⟨-, hstep, -⟩ | ⟨hstep, -⟩ := h.step_cases false op
  · rw [hstep, oldest_push (hroom (by rw [hnew]; rfl))]
  · rw [hstep, oldest_back]
  · rw [hstep, oldest_forward]
  · rw [hstep]

end TextHistory

/-! ## What calls do to the mark -/

namespace Document

variable {d d' : Document}

/-- A text as the document writes it, with the newline that was taken off its end. -/
def asWritten (d : Document) (t : Text) : Text := t ++ if d.finalNewline then ['\n'] else []

/-- What the document writes to its file. -/
def written (d : Document) : Text := d.asWritten d.text

theorem content_eq_encode_written (d : Document) : d.content = Utf8.encode d.written := rfl

theorem withoutFinalNewline_append (t : Text) :
    (withoutFinalNewline t).1 ++ (if (withoutFinalNewline t).2 then ['\n'] else []) = t := by
  unfold withoutFinalNewline
  split
  · rename_i hlast
    exact List.dropLast_append_getLast? _ hlast
  · exact List.append_nil t

theorem state_load (d : Document) {fs : Files} {name : String} {bytes : List UInt8}
    (hread : fs.read name = .ok bytes) :
    let taken := withoutFinalNewline (Utf8.decodeLossy bytes)
    ∃ language, (d.load fs name).state =
      { d.reset name with lines := Text.lines taken.1, language, finalNewline := taken.2 } := by
  unfold load
  simp only [hread]
  exact ⟨_, rfl⟩

theorem modified_of_undo (h : d.undo = .done d' true) : d'.modified = !d'.past.isEmpty := by
  unfold undo at h
  split at h
  · cases h
  · dsimp only at h
    unfold Attempt.andThen at h
    split at h <;> cases h
    rfl

theorem modified_of_redo (h : d.redo = .done d' true) : d'.modified = true := by
  unfold redo at h
  split at h
  · cases h
  · unfold Attempt.andThen at h
    split at h <;> cases h
    rfl

end Document

theorem Simulates.isEmpty_past {d : Document} {h : TextHistory} (hs : Simulates d h) :
    d.past.isEmpty = h.past.isEmpty := by
  rw [Bool.eq_iff_iff, List.isEmpty_iff_length_eq_zero, List.isEmpty_iff_length_eq_zero,
    hs.past.length_eq]

namespace Operation

variable {d : Document} {h : TextHistory} {op : Operation}

/-- What a call has to do to the mark, and to the newline at the end. -/
structure Marks (op : Operation) (d : Document) (h : TextHistory) : Prop where
  modified : (op.run d).state.modified = h.mark d.modified op
  finalNewline : (op.run d).state.finalNewline = d.finalNewline

/-- A call that has nothing to do. -/
theorem marks_of_idle (hs : Simulates d h) (hidle : h.IsIdle op) : op.Marks d h := by
  have hstate := (keeps hs op).idle hidle
  constructor
  · rw [hstate, TextHistory.mark_of_idle hidle]
  · rw [hstate]

/-- A call that records a change. -/
theorem marks_of_some {t : Text} (hnew : op.newText? h.present = some t)
    (hrun : ∃ d' a, op.run d = .done d' a ∧ d'.modified = true ∧ d'.finalNewline = d.finalNewline) :
    op.Marks d h := by
  obtain ⟨d', a, hrun, hmodified, hfinal⟩ := hrun
  have hset : h.mark d.modified op = d'.modified := (TextHistory.mark_of_some hnew).trans hmodified.symm
  exact ⟨hrun ▸ hset.symm, hrun ▸ hfinal⟩

theorem marks_insert (hs : Simulates d h) (n : Nat) (c : Int) (t : OneLine) :
    (insert n c t).Marks d h := by
  by_cases hn : n < (lines h.present).length
  · obtain ⟨as, l, bs, rfl, hd, -⟩ := hs.exists_around hn
    refine marks_of_some (by rw [newText?, if_pos hn]) ?_
    rw [run, Document.insert_around hd]
    exact ⟨_, _, rfl, rfl, rfl⟩
  · exact marks_of_idle hs (if_neg hn)

theorem marks_delete (hs : Simulates d h) (n : Nat) (i j : Int) : (delete n i j).Marks d h := by
  by_cases hn : n < (lines h.present).length
  · obtain ⟨as, l, bs, rfl, hd, -⟩ := hs.exists_around hn
    refine marks_of_some (by rw [newText?, if_pos hn]) ?_
    rw [run, Document.delete_around hd]
    exact ⟨_, _, rfl, rfl, rfl⟩
  · exact marks_of_idle hs (if_neg hn)

theorem marks_split (hs : Simulates d h) (n : Nat) (c : Int) : (split n c).Marks d h := by
  by_cases hn : n < (lines h.present).length
  · obtain ⟨as, l, bs, rfl, hd, -⟩ := hs.exists_around hn
    refine marks_of_some (by rw [newText?, if_pos hn]) ?_
    rw [run, Document.split_around hd]
    exact ⟨_, _, rfl, rfl, rfl⟩
  · exact marks_of_idle hs (if_neg hn)

theorem marks_join (hs : Simulates d h) (n : Nat) : (join n).Marks d h := by
  by_cases hn : 0 < n ∧ n < (lines h.present).length
  · obtain ⟨as, l, bs, rfl, hd, -⟩ := hs.exists_around hn.2
    obtain ⟨as, p, rfl⟩ := (List.eq_nil_or_concat' as).resolve_left (List.length_pos_iff.1 hn.1)
    have happ : as ++ [p] ++ l :: bs = as ++ p :: l :: bs := by simp
    have hlen : ((as ++ [p]).length : Int) = as.length + 1 := by simp
    refine marks_of_some (by rw [newText?, if_pos hn]) ?_
    rw [run, hlen, Document.join_around (hd.trans happ)]
    exact ⟨_, _, rfl, rfl, rfl⟩
  · exact marks_of_idle hs (if_neg hn)

theorem marks_deleteLine (hs : Simulates d h) (n : Nat) : (deleteLine n).Marks d h := by
  by_cases hn : n < (lines h.present).length ∧ (lines h.present).length ≠ 1
  · obtain ⟨as, l, bs, rfl, hd, hls, -⟩ := hs.exists_around hn.1
    have hne : as ++ bs ≠ [] := Document.around_ne_nil hls hn.2
    have hnew : ∃ t, (deleteLine as.length).newText? h.present = some t := by
      rw [newText?]
      split
      · exact ⟨_, rfl⟩
      · rw [if_pos (by omega)]
        exact ⟨_, rfl⟩
    obtain ⟨t, hnew⟩ := hnew
    refine marks_of_some hnew ?_
    rw [run, Document.deleteLine_around hd hne]
    exact ⟨_, _, rfl, rfl, rfl⟩
  · refine marks_of_idle hs ?_
    show (deleteLine n).newText? h.present = none
    rw [newText?, if_neg (by omega), if_neg (by omega)]

theorem marks_applyEdits (hs : Simulates d h) (es : List Edit) : (applyEdits es).Marks d h := by
  cases es with
  | nil => exact marks_of_idle hs rfl
  | cons e es =>
    cases hnew : Edit.applyAll h.present (e :: es) with
    | error x =>
      refine marks_of_idle hs ?_
      show (applyEdits (e :: es)).newText? h.present = none
      rw [newText?, hnew]
      · rfl
      · simp
    | ok t =>
      have hrun : d.applyEdits (e :: es) = .done (d.withText t) (e :: es).length :=
        Document.applyEdits_eq_done hs.line_nonneg (List.cons_ne_nil e es) (hs.text.symm ▸ hnew)
      refine marks_of_some (t := t) ?_ ?_
      · rw [newText?, hnew]
        · rfl
        · simp
      · rw [run, hrun]
        exact ⟨_, _, rfl, rfl, rfl⟩

theorem marks_undo (hs : Simulates d h) : undo.Marks d h := by
  by_cases hpast : h.past = []
  · exact marks_of_idle hs hpast
  obtain ⟨a, as, hcons⟩ := List.exists_cons_of_ne_nil hpast
  obtain ⟨d', hrun, -⟩ := hs.undo_cons hcons
  have hstate : (undo.run d).state = d' := by
    rw [run, hrun]
    rfl
  have hs' := (keeps hs undo).simulates
  rw [hstate] at hs'
  constructor
  · rw [hstate, Document.modified_of_undo hrun, TextHistory.mark, if_neg hpast, hs'.isEmpty_past]
    rfl
  · have hfinal := d.sameFiling_undo.2
    rw [hrun] at hfinal
    rw [hstate]
    exact hfinal

theorem marks_redo (hs : Simulates d h) : redo.Marks d h := by
  by_cases hfuture : h.future = []
  · exact marks_of_idle hs hfuture
  obtain ⟨b, bs, hcons⟩ := List.exists_cons_of_ne_nil hfuture
  obtain ⟨d', hrun, -⟩ := hs.redo_cons hcons
  have hstate : (redo.run d).state = d' := by
    rw [run, hrun]
    rfl
  constructor
  · rw [hstate, Document.modified_of_redo hrun, TextHistory.mark, if_neg hfuture]
  · have hfinal := d.sameFiling_redo.2
    rw [hrun] at hfinal
    rw [hstate]
    exact hfinal

/-- **One call** sets the mark as the history tells, and leaves the newline at the end. -/
theorem marks (hs : Simulates d h) : ∀ op : Operation, op.Marks d h
  | insert n c t => marks_insert hs n c t
  | delete n i j => marks_delete hs n i j
  | split n c => marks_split hs n c
  | join n => marks_join hs n
  | deleteLine n => marks_deleteLine hs n
  | applyEdits es => marks_applyEdits hs es
  | moveTo _ => ⟨rfl, rfl⟩
  | undo => marks_undo hs
  | redo => marks_redo hs

end Operation

/-! ## Runs with files -/

/-- A call to a document in a run with files.  Each file operation has the files as it finds them. -/
inductive FileOperation where
  | call (op : Operation)
  | load (fs : Files) (name : String)
  | save (fs : Files) (name : Option String)
  deriving DecidableEq, Repr

/-- A document in a run, its history since it was opened, and the text that was read or written last,
    or that it was opened with. -/
structure Filed where
  document : Document
  history : TextHistory
  kept : Text
  deriving DecidableEq, Repr

namespace Filed

/-- A document that is opened with a text. -/
def start (t : Text) : Filed := ⟨.ofText t, .start t, t⟩

/-- The run after one more call; none if a file cannot be read or written. -/
def step? (s : Filed) : FileOperation → Option Filed
  | .call op => some ⟨(op.run s.document).state, s.history.step op, s.kept⟩
  | .load fs name =>
    match fs.read name with
    | .error _ => none
    | .ok bytes =>
      let t := Utf8.decodeLossy bytes
      some ⟨(s.document.load fs name).state, .start (Document.withoutFinalNewline t).1, t⟩
  | .save fs name =>
    match s.document.save fs name with
    | .ok (some (d, _)) => some ⟨d, s.history, s.document.written⟩
    | _ => none

/-- The run after some more calls. -/
def run? (s : Filed) : List FileOperation → Option Filed
  | [] => some s
  | op :: ops => (s.step? op).bind (run? · ops)

/-- Whether the mark tells the truth: a document without it would write what its file has. -/
def Honest (s : Filed) : Prop := s.document.modified = false → s.document.written = s.kept

/-- What the document would write if every change were undone. -/
def oldest (s : Filed) : Text := s.document.asWritten s.history.oldest

variable {s s' : Filed} {ops : List FileOperation}

/-- A file that was read is the text that the document would write, without a history. -/
theorem load_eq {fs : Files} {name : String} (hload : s.step? (.load fs name) = some s') :
    ∃ d t, s' = ⟨d, .start t, d.asWritten t⟩ ∧ Simulates d (.start t) ∧ d.modified = false := by
  cases hread : fs.read name with
  | error x =>
    rw [step?, hread] at hload
    cases hload
  | ok bytes =>
    rw [step?, hread] at hload
    obtain rfl := Option.some.inj hload
    obtain ⟨language, hstate⟩ := s.document.state_load hread
    rw [hstate]
    generalize Utf8.decodeLossy bytes = t
    have hwritten := Document.withoutFinalNewline_append t
    generalize Document.withoutFinalNewline t = taken at hwritten ⊢
    subst hwritten
    exact ⟨_, taken.1, rfl, ⟨rfl, .nil _, .nil _, Nat.zero_le _, Int.le_refl 0⟩, rfl⟩

/-- A file that was written has what the document would write, and the history stays. -/
theorem save_eq {fs : Files} {name : Option String} (hsave : s.step? (.save fs name) = some s') :
    ∃ n, s' = ⟨{ s.document with filename := some n, modified := false }, s.history,
      s.document.written⟩ := by
  unfold step? at hsave
  dsimp only at hsave
  split at hsave
  · rename_i d fs' hok
    obtain ⟨n, rfl⟩ := Document.state_save hok
    exact ⟨n, (Option.some.inj hsave).symm⟩
  · cases hsave

/-! ### The invariant -/

/-- What holds of a run at any time. -/
structure Sound (s : Filed) : Prop where
  simulates : Simulates s.document s.history
  marked : s.document.modified = true → s.history.past ≠ []
  unmarked : s.document.modified = false → s.document.written = s.kept ∨ s.history.past = []

namespace Sound

theorem written (h : s.Sound) : s.document.written = s.document.asWritten s.history.present := by
  rw [Document.written, h.simulates.text]

/-- A text that was just opened or read. -/
theorem fresh {d : Document} {t : Text} (hsim : Simulates d (.start t))
    (hmodified : d.modified = false) : Sound ⟨d, .start t, d.asWritten t⟩ where
  simulates := hsim
  marked := fun hset => by
    rw [hmodified] at hset
    cases hset
  unmarked := fun _ => .inr rfl

theorem start (t : Text) : (Filed.start t).Sound := by
  have hfresh := fresh (Simulates.ofText t) rfl
  rwa [show (Document.ofText t).asWritten t = t from List.append_nil t] at hfresh

theorem call (h : s.Sound) (op : Operation) :
    Sound ⟨(op.run s.document).state, s.history.step op, s.kept⟩ := by
  have hsim := (Operation.keeps h.simulates op).simulates
  obtain ⟨hmodified, hfinal⟩ := Operation.marks h.simulates op
  refine ⟨hsim, fun hset => ?_, fun hclear => ?_⟩
  · exact TextHistory.past_ne_nil_of_mark (hmodified ▸ hset) h.marked
  · rcases TextHistory.step_of_not_mark (hmodified ▸ hclear) with ⟨hbefore, hstep⟩ | hpast
    · -- the call has changed nothing
      rcases h.unmarked hbefore with hkept | hpast
      · left
        have htext : (op.run s.document).state.text = s.document.text := by
          rw [hsim.text, hstep, h.simulates.text]
        rw [← hkept, Document.written, Document.written, Document.asWritten, Document.asWritten,
          htext, hfinal]
      · right
        rw [hstep]
        exact hpast
    · exact .inr hpast

/-- **One step.** -/
theorem step (h : s.Sound) {op : FileOperation} (hstep : s.step? op = some s') : s'.Sound := by
  cases op with
  | call op =>
    obtain rfl := Option.some.inj hstep
    exact h.call op
  | load fs name =>
    obtain ⟨d, t, rfl, hsim, hmodified⟩ := load_eq hstep
    exact fresh hsim hmodified
  | save fs name =>
    obtain ⟨n, rfl⟩ := save_eq hstep
    have hs := h.simulates
    constructor
    · exact ⟨hs.lines, hs.past, hs.future, hs.bounded, hs.line_nonneg⟩
    · intro hset
      cases hset
    · exact fun _ => .inl rfl

/-- **A run.** -/
theorem run (h : s.Sound) (hrun : s.run? ops = some s') : s'.Sound := by
  induction ops generalizing s with
  | nil =>
    obtain rfl := Option.some.inj hrun
    exact h
  | cons op ops ih =>
    obtain ⟨s₁, hstep, hrest⟩ := Option.bind_eq_some_iff.1 hrun
    exact ih (h.step hstep) hrest

end Sound

/-! ### The oldest text -/

/-- Whether a call keeps the oldest text together with that of the file. -/
def IsCareful (s : Filed) : FileOperation → Prop
  | .call op =>
    (op.newText? s.history.present).isSome → s.history.past.length < Document.historyLimit
  | .load _ _ => True
  | .save _ _ => s.history.past = []

/-- Whether all calls in a run do. -/
def IsCarefulRun (s : Filed) : List FileOperation → Prop
  | [] => True
  | op :: ops => s.IsCareful op ∧ ∀ s', s.step? op = some s' → s'.IsCarefulRun ops

theorem Sound.oldest_call (h : s.Sound) (op : Operation) (hcareful : s.IsCareful (.call op)) :
    oldest ⟨(op.run s.document).state, s.history.step op, s.kept⟩ = s.oldest := by
  rw [oldest, oldest, TextHistory.oldest_step hcareful, Document.asWritten, Document.asWritten,
    (Operation.marks h.simulates op).finalNewline]

/-- Undo with nothing left to undo does nothing. -/
theorem Sound.step_undo_nil (h : s.Sound) (hpast : s.history.past = []) :
    s.step? (.call .undo) = some s := by
  have hstate := (Operation.keeps h.simulates .undo).idle hpast
  rw [step?, hstate, TextHistory.step, TextHistory.back_of_past_nil hpast]

theorem Sound.run_undo_nil (h : s.Sound) (hpast : s.history.past = []) (n : Nat) :
    s.run? (List.replicate n (.call .undo)) = some s := by
  induction n with
  | zero => rfl
  | succ n ih => rw [List.replicate_succ, run?, h.step_undo_nil hpast, Option.bind_some, ih]

/-- **The mark and undo.**  However often a document is undone, its mark tells the truth exactly if its
    oldest text is the one that its file has. -/
theorem Sound.honest_undone_iff (h : s.Sound) :
    (∀ n s', s.run? (List.replicate n (.call .undo)) = some s' → s'.Honest) ↔ s.oldest = s.kept := by
  -- on the texts that can be gone back to
  generalize hpast : s.history.past = as
  induction as generalizing s with
  | nil =>
    have hclear : s.document.modified = false := by
      cases hset : s.document.modified with
      | false => rfl
      | true => exact absurd hpast (h.marked hset)
    have holdest : s.oldest = s.document.written := by
      rw [h.written, oldest, TextHistory.oldest, hpast]
      rfl
    constructor
    · intro hall
      exact holdest.trans (hall 0 s rfl hclear)
    · intro hkept n s' hrun _
      obtain rfl := Option.some.inj ((h.run_undo_nil hpast n).symm.trans hrun)
      exact holdest.symm.trans hkept
  | cons a as ih =>
    have hpast' : (s.history.step .undo).past = as := by
      rw [TextHistory.step, TextHistory.back, hpast]
    rw [← h.oldest_call .undo (fun hnew => by cases hnew), ← ih (h.call .undo) hpast']
    constructor
    · intro hall n s' hrun
      exact hall (n + 1) s' hrun
    · intro hall n s' hrun
      cases n with
      | zero =>
        obtain rfl := Option.some.inj hrun
        intro hclear
        exact (h.unmarked hclear).resolve_right (by rw [hpast]; exact List.cons_ne_nil a as)
      | succ n => exact hall n s' hrun

theorem Sound.oldest_step (h : s.Sound) {op : FileOperation} (hcareful : s.IsCareful op)
    (hstep : s.step? op = some s') (hkept : s.oldest = s.kept) : s'.oldest = s'.kept := by
  cases op with
  | call op =>
    obtain rfl := Option.some.inj hstep
    exact (h.oldest_call op hcareful).trans hkept
  | load fs name =>
    obtain ⟨d, t, rfl, -, -⟩ := load_eq hstep
    rfl
  | save fs name =>
    obtain ⟨n, rfl⟩ := save_eq hstep
    have hpast : s.history.past = [] := hcareful
    show s.document.asWritten s.history.oldest = s.document.written
    rw [h.written, TextHistory.oldest, hpast]
    rfl

theorem Sound.oldest_run (h : s.Sound) (hcareful : s.IsCarefulRun ops) (hrun : s.run? ops = some s')
    (hkept : s.oldest = s.kept) : s'.oldest = s'.kept := by
  induction ops generalizing s with
  | nil =>
    obtain rfl := Option.some.inj hrun
    exact hkept
  | cons op ops ih =>
    obtain ⟨s₁, hstep, hrest⟩ := Option.bind_eq_some_iff.1 hrun
    exact ih (h.step hstep) (hcareful.2 s₁ hstep) hrest (h.oldest_step hcareful.1 hstep hkept)

/-- **What the mark of unsaved changes tells.**  After any run, a document without the mark would
    write what its file has, unless there is nothing left to undo; if no change was dropped and the
    file was written only when there was nothing to undo, it would write that in any case.  And it will
    stay so however much is undone from now on if, and only if, the oldest text that can be gone back
    to is the one that the file has. -/
theorem unmarked_tells {t : Text} (hrun : (start t).run? ops = some s) :
    (s.document.past ≠ [] → s.Honest) ∧ ((start t).IsCarefulRun ops → s.Honest) ∧
      ((∀ n s', s.run? (List.replicate n (.call .undo)) = some s' → s'.Honest) ↔
        s.oldest = s.kept) := by
  have hs : s.Sound := (Sound.start t).run hrun
  refine ⟨fun hpast hclear => ?_, fun hcareful => ?_, hs.honest_undone_iff⟩
  · refine (hs.unmarked hclear).resolve_right fun hnil => hpast ?_
    rw [← List.length_eq_zero_iff, hs.simulates.past.length_eq, hnil, List.length_nil]
  · have hkept := (Sound.start t).oldest_run hcareful hrun (List.append_nil t)
    exact hs.honest_undone_iff.2 hkept 0 s rfl

/-- A text that was changed and then written. -/
theorem unmarked_tells_saved :
    let s : Filed := ⟨{ Document.ofText ['a', 'b'] with
      column := 2, past := [.line 0 ['a'] ['a', 'b']], filename := some "f" }, ⟨[['a']], ['a', 'b'], []⟩,
      ['a', 'b']⟩
    (start ['a']).run? [.call (.insert 0 1 ⟨['b'], by decide⟩), .save .empty (some "f")] = some s ∧
      s.Honest ∧ ¬ ∀ n s', s.run? (List.replicate n (.call .undo)) = some s' → s'.Honest := by
  intro s
  have hrun : (start ['a']).run? [.call (.insert 0 1 ⟨['b'], by decide⟩), .save .empty (some "f")] =
      some s := by decide +kernel
  obtain ⟨hhonest, -, hundo⟩ := unmarked_tells hrun
  exact ⟨hrun, hhonest (List.cons_ne_nil _ _), fun hall => absurd (hundo.1 hall) (by decide)⟩

/-- Undone once more, it is the text from before the change and not marked. -/
theorem unmarked_after_save_and_undo :
    ∃ s, (start ['a']).run? [.call (.insert 0 1 ⟨['b'], by decide⟩), .save .empty (some "f"),
        .call .undo] = some s ∧
      s.document.modified = false ∧ s.document.written = ['a'] ∧ s.kept = ['a', 'b'] ∧ ¬ s.Honest := by
  refine ⟨⟨{ Document.ofText ['a'] with
    column := 1, future := [.line 0 ['a'] ['a', 'b']], filename := some "f" }, ⟨[], ['a'], [['a', 'b']]⟩,
    ['a', 'b']⟩, by decide +kernel, rfl, rfl, rfl, fun h => ?_⟩
  exact absurd (h rfl) (by decide)

end Filed

end Respell
