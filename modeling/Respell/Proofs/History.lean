/-
  Undo and redo move along a history of texts.

  A document records its changes in two lists, and there are three kinds of records: a whole text
  replaced, one line replaced, and a text put down before lines are split, joined or deleted, with
  the text after it left open until the change is undone.  This file proves that all of this behaves
  as a row of texts with a finger on one of them.

  1. **The history** (`TextHistory`) has the texts of the past and of the future, the nearest first.
     A change puts the present into the past, of which the hundred newest are kept, and empties the
     future.  Undo and redo move the finger by one.  Nothing here knows of lines, records or cursors.

  2. **The operations** (`Operation`) are the calls to a document in a run.  `newText?` says on the
     flat text what a call makes of it, if it changes anything, and `answer` what it gives back.

  3. **The invariant** (`Simulates`).  A record is good only for the two texts between which it was
     made: a record of a line, which has only a number, would hit another line in any other text.  So
     every record in the two lists is tied to the text on either side of it (`Past`, `Future`).  A
     record of the past may still be open (`Records`); undo fills it in from the text that is there,
     which is the one on its other side (`completed_leads`).

  4. **The step** (`Simulates.step`) has one case for each operation, and the run is an induction
     (`simulates_runAll`).
-/
import Mathlib.Data.List.Basic
import Respell.Proofs.Lines

namespace Respell

open Text

/-! ## A history of texts -/

/-- The texts before and after the present one, the nearest first. -/
structure TextHistory where
  past : List Text
  present : Text
  future : List Text
  deriving DecidableEq, Repr

namespace TextHistory

/-- The history of a text that nobody has changed. -/
def start (t : Text) : TextHistory := ⟨[], t, []⟩

/-- The history with a new present text. -/
def push (h : TextHistory) (t : Text) : TextHistory :=
  ⟨(h.present :: h.past).take Document.historyLimit, t, []⟩

/-- The history one step back, if there is one. -/
def back (h : TextHistory) : TextHistory :=
  match h.past with
  | [] => h
  | a :: as => ⟨as, a, h.present :: h.future⟩

/-- The history one step on, if there is one. -/
def forward (h : TextHistory) : TextHistory :=
  match h.future with
  | [] => h
  | b :: bs => ⟨h.present :: h.past, b, bs⟩

end TextHistory

/-! ## Operations -/

/-- A text without a newline, as keys type it. -/
abbrev OneLine := {t : Text // '\n' ∉ t}

/-- A call to a document in a run.  Lines count from the start; columns, offsets and edits are any. -/
inductive Operation where
  | insert (line : Nat) (column : Int) (t : OneLine)
  | delete (line : Nat) (start stop : Int)
  | split (line : Nat) (column : Int)
  | join (line : Nat)
  | deleteLine (line : Nat)
  | applyEdits (es : List Edit)
  | moveTo (offset : Int)
  | undo
  | redo
  deriving DecidableEq, Repr

/-- What a call gives back. -/
inductive Answer where
  | nothing
  | count (n : Nat)
  | moved (there : Bool)
  deriving DecidableEq, Repr

namespace Operation

/-- The call. -/
def run (d : Document) : Operation → Attempt Document DocumentError Answer
  | insert l c t => (d.insert l c t).andThen fun d _ => .done d .nothing
  | delete l i j => (d.delete l i j).andThen fun d _ => .done d .nothing
  | split l c => (d.split l c).andThen fun d _ => .done d .nothing
  | join l => .done (d.join l) .nothing
  | deleteLine l => (d.deleteLine l).andThen fun d _ => .done d .nothing
  | applyEdits es => (d.applyEdits es).andThen fun d n => .done d (.count n)
  | moveTo o => .done (d.moveTo o) .nothing
  | undo => d.undo.andThen fun d b => .done d (.moved b)
  | redo => d.redo.andThen fun d b => .done d (.moved b)

/-- The document after some calls; one that fails leaves behind what it left behind. -/
def runAll (d : Document) (ops : List Operation) : Document :=
  ops.foldl (fun d op => (op.run d).state) d

/-- The offset of a column in a line of a text. -/
def offsetIn (t : Text) (line : Nat) (column : Int) : Nat :=
  Document.lineStart (lines t) line + place ((lines t).getD line []).length column

/-- The text that a call makes of a text; none if it records no change. -/
def newText? (t : Text) : Operation → Option Text
  | insert l c s =>
    if l < (lines t).length then some (t.take (offsetIn t l c) ++ s ++ t.drop (offsetIn t l c))
    else none
  | delete l i j =>
    if l < (lines t).length then some (t.take (offsetIn t l i) ++ t.drop (offsetIn t l j)) else none
  | split l c =>
    if l < (lines t).length then some (t.take (offsetIn t l c) ++ ['\n'] ++ t.drop (offsetIn t l c))
    else none
  | join l =>
    if 0 < l ∧ l < (lines t).length then
      some (t.take (Document.lineStart (lines t) l - 1) ++ t.drop (Document.lineStart (lines t) l))
    else none
  | deleteLine l =>
    if l + 1 < (lines t).length then
      some (t.take (Document.lineStart (lines t) l) ++
        t.drop (Document.lineStart (lines t) (l + 1)))
    else if 0 < l ∧ l + 1 = (lines t).length then
      some (t.take (Document.lineStart (lines t) l - 1))
    else none
  | applyEdits [] => none
  | applyEdits es => (Edit.applyAll t es).toOption
  | moveTo _ => none
  | undo => none
  | redo => none

end Operation

namespace TextHistory

/-- The history after a call. -/
def step (h : TextHistory) : Operation → TextHistory
  | .undo => h.back
  | .redo => h.forward
  | op =>
    match op.newText? h.present with
    | none => h
    | some t => h.push t

/-- The history after some calls. -/
def stepAll (h : TextHistory) (ops : List Operation) : TextHistory := ops.foldl step h

/-- What a call gives back. -/
def answer (h : TextHistory) : Operation → Except DocumentError Answer
  | .applyEdits es =>
    match Edit.applyAll h.present es with
    | .error e => .error (.edit e)
    | .ok _ => .ok (.count es.length)
  | .undo => .ok (.moved !h.past.isEmpty)
  | .redo => .ok (.moved !h.future.isEmpty)
  | _ => .ok .nothing

/-- Whether a call has nothing to do. -/
def IsIdle (h : TextHistory) : Operation → Prop
  | .moveTo _ => False
  | .undo => h.past = []
  | .redo => h.future = []
  | op => op.newText? h.present = none

end TextHistory

/-! ## Records and the texts between which they were made -/

namespace Change

/-- Whether a change leads from one text to another. -/
def Leads (c : Change) (a b : Text) : Prop :=
  match c with
  | .text _ old new => old = a ∧ new = b
  | .line n old new => ∃ as bs : List Text, n = as.length ∧
      lines a = as ++ old :: bs ∧ lines b = as ++ new :: bs

/-- Whether a change is a record of the step from one text to another; the text after it may be
    left open. -/
def Records (c : Change) (a b : Text) : Prop := c.Leads a b ∨ ∃ cursor, c = .text cursor a a

/-- The change the other way round. -/
def reversed : Change → Change
  | .text cursor old new => .text cursor new old
  | .line n old new => .line n new old

theorem Leads.reversed {c : Change} {a b : Text} (h : c.Leads a b) : c.reversed.Leads b a := by
  cases c with
  | text cursor old new => exact ⟨h.2, h.1⟩
  | line n old new =>
    obtain ⟨as, bs, hn, ha, hb⟩ := h
    exact ⟨as, bs, hn, hb, ha⟩

end Change

/-- Changes, the newest first, that lead back from a text through a list of texts. -/
inductive Past : Text → List Change → List Text → Prop where
  | nil (b : Text) : Past b [] []
  | cons {c : Change} {cs : List Change} {a b : Text} {as : List Text} :
      c.Records a b → Past a cs as → Past b (c :: cs) (a :: as)

/-- Changes, the nearest first, that lead on from a text through a list of texts. -/
inductive Future : Text → List Change → List Text → Prop where
  | nil (a : Text) : Future a [] []
  | cons {c : Change} {cs : List Change} {a b : Text} {bs : List Text} :
      c.Leads a b → Future b cs bs → Future a (c :: cs) (b :: bs)

theorem Past.length_eq {b : Text} {cs : List Change} {as : List Text} (h : Past b cs as) :
    cs.length = as.length := by
  induction h with
  | nil b => rfl
  | cons _ _ ih => rw [List.length_cons, List.length_cons, ih]

theorem Future.length_eq {a : Text} {cs : List Change} {bs : List Text} (h : Future a cs bs) :
    cs.length = bs.length := by
  induction h with
  | nil a => rfl
  | cons _ _ ih => rw [List.length_cons, List.length_cons, ih]

/-- The oldest changes can be dropped together with their texts. -/
theorem Past.take {b : Text} {cs : List Change} {as : List Text} (h : Past b cs as) :
    ∀ n, Past b (cs.take n) (as.take n) := by
  induction h with
  | nil b =>
    intro n
    rw [List.take_nil, List.take_nil]
    exact .nil b
  | cons hc _ ih =>
    intro n
    cases n with
    | zero => exact .nil _
    | succ n => exact .cons hc (ih n)

namespace Document

/-! ## Setting a text, and taking changes back -/

/-- Setting a text succeeds while the cursor's line is counted from the start, and changes nothing but
    the lines and where the cursor is. -/
theorem exists_setText {d : Document} (h : 0 ≤ d.line) (t : Text) :
    ∃ line column, 0 ≤ line ∧ d.setText t = .done { d with lines := Text.lines t, line, column } () := by
  have hpos : 0 < (Text.lines t).length := List.length_pos_iff.2 (split_ne_nil '\n' t)
  obtain ⟨n, hn⟩ := Int.eq_ofNat_of_zero_le (a := min d.line ((Text.lines t).length - 1)) (by omega)
  have hindex : index? (Text.lines t).length (min d.line ((Text.lines t).length - 1)) = some n := by
    rw [hn]
    exact index?_natCast (by omega)
  unfold setText
  simp only [hindex]
  exact ⟨_, _, by show 0 ≤ min _ _; omega, rfl⟩

theorem setText_eq_done {d : Document} (h : 0 ≤ d.line) (t : Text) :
    ∃ d', d.setText t = .done d' () ∧ d'.lines = Text.lines t ∧ 0 ≤ d'.line ∧
      d'.past = d.past ∧ d'.future = d.future := by
  obtain ⟨line, column, hline, hset⟩ := exists_setText h t
  exact ⟨_, hset, rfl, hline, rfl, rfl⟩

/-- The document with another text that is recorded as one change, and the cursor where it was or at the
    end of the text. -/
def withText (d : Document) (new : Text) : Document :=
  { ({ d with lines := Text.lines new }.moveTo (min d.cursor new.length)).record
      (.text d.cursor d.text new) with
    modified := true }

/-- **An edit set that is not refused** is carried out in one change. -/
theorem applyEdits_eq_done {d : Document} {es : List Edit} {new : Text} (h : 0 ≤ d.line) (hes : es ≠ [])
    (hnew : Edit.applyAll d.text es = .ok new) :
    d.applyEdits es = .done (d.withText new) es.length := by
  obtain ⟨e, es, rfl⟩ := List.exists_cons_of_ne_nil hes
  obtain ⟨line, column, -, hset⟩ := exists_setText h new
  unfold applyEdits
  dsimp only
  rw [hnew]
  dsimp only
  rw [hset]
  rfl

/-- Taking a change back is making it the other way round. -/
theorem revert_eq_repeatChange (d : Document) (c : Change) :
    d.revert c = d.repeatChange c.reversed := by
  cases c <;> rfl

/-- A change made on the text from which it leads gives the text to which it leads. -/
theorem repeatChange_eq_done {d : Document} {c : Change} {a b : Text} (hc : c.Leads a b)
    (hls : d.lines = Text.lines a) (hline : 0 ≤ d.line) :
    ∃ d', d.repeatChange c = .done d' () ∧ d'.lines = Text.lines b ∧ 0 ≤ d'.line ∧
      d'.past = d.past ∧ d'.future = d.future := by
  cases c with
  | text cursor old new =>
    obtain ⟨_, rfl⟩ := hc
    obtain ⟨d', hset, hls', _, hpast, hfuture⟩ := setText_eq_done hline new
    refine ⟨d'.moveTo cursor, ?_, hls', ?_, hpast, hfuture⟩
    · rw [repeatChange, hset]
      rfl
    · show 0 ≤ (((d'.positionOf cursor).1 : Nat) : Int)
      omega
  | line n old new =>
    obtain ⟨as, bs, rfl, ha, hb⟩ := hc
    have hlt : (0 : Int) ≤ as.length ∧ (as.length : Int) < d.lines.length := by
      rw [hls, ha, List.length_append, List.length_cons]
      omega
    refine ⟨_, rfl, ?_⟩
    rw [putLine, if_pos hlt, hls, ha, Int.toNat_natCast, set_around, hb]
    exact ⟨rfl, hlt.1, rfl, rfl⟩

/-- **A record filled in on undo leads from the text before it to the text that is there.** -/
theorem completed_leads {d : Document} {c : Change} {a b : Text} (hc : c.Records a b)
    (hb : d.text = b) : (d.completed c).Leads a b := by
  cases c with
  | text cursor old new =>
    obtain ⟨rfl, rfl⟩ | ⟨_, hopen⟩ := hc
    · -- a record that is closed may have the same text twice, and then that text is there
      refine ⟨rfl, ?_⟩
      show (if old = new then d.text else new) = new
      split
      · assumption
      · rfl
    · obtain ⟨_, rfl, rfl⟩ := Change.text.inj hopen
      refine ⟨rfl, ?_⟩
      show (if new = new then d.text else new) = b
      rw [if_pos rfl, hb]
  | line n old new =>
    obtain h | ⟨_, hopen⟩ := hc
    · exact h
    · exact absurd hopen (by simp)

end Document

/-! ## The invariant -/

/-- Whether a document stands for a history of texts. -/
structure Simulates (d : Document) (h : TextHistory) : Prop where
  lines : d.lines = Text.lines h.present
  past : Past h.present d.past h.past
  future : Future h.present d.future h.future
  bounded : h.past.length + h.future.length ≤ Document.historyLimit
  line_nonneg : 0 ≤ d.line

namespace Simulates

variable {d d' : Document} {h : TextHistory}

theorem text (hs : Simulates d h) : d.text = h.present := by
  rw [Document.text, hs.lines, unlines_lines]

theorem ofText (t : Text) : Simulates (Document.ofText t) (.start t) :=
  ⟨rfl, .nil t, .nil t, by simp [TextHistory.start], Int.le_refl 0⟩

/-- A change that is recorded is a step of the history. -/
theorem push {c : Change} {t : Text} (hs : Simulates d h) (hc : c.Records h.present t)
    (hls : d'.lines = Text.lines t) (hpast : d'.past = Document.pushed c d.past)
    (hfuture : d'.future = []) (hline : 0 ≤ d'.line) : Simulates d' (h.push t) where
  lines := hls
  past := by
    rw [hpast]
    exact (Past.cons hc hs.past).take Document.historyLimit
  future := by
    rw [hfuture]
    exact .nil t
  bounded := by
    show ((h.present :: h.past).take Document.historyLimit).length + ([] : List Text).length ≤ _
    rw [List.length_take, List.length_nil]
    omega
  line_nonneg := hline

/-! ### Undo and redo -/

theorem undo_nil (hs : Simulates d h) (hpast : h.past = []) : d.undo = .done d false := by
  have hlen := hs.past.length_eq
  rw [hpast, List.length_nil, List.length_eq_zero_iff] at hlen
  rw [Document.undo, hlen]

theorem redo_nil (hs : Simulates d h) (hfuture : h.future = []) : d.redo = .done d false := by
  have hlen := hs.future.length_eq
  rw [hfuture, List.length_nil, List.length_eq_zero_iff] at hlen
  rw [Document.redo, hlen]

theorem undo_cons {a : Text} {as : List Text} (hs : Simulates d h) (hpast : h.past = a :: as) :
    ∃ d', d.undo = .done d' true ∧ Simulates d' ⟨as, a, h.present :: h.future⟩ := by
  have hp := hs.past
  have hbound := hs.bounded
  rw [hpast] at hp hbound
  generalize hcs : d.past = cs at hp
  cases hp with
  | @cons c cs _ _ _ hc hp =>
    have hleads := Document.completed_leads hc hs.text
    obtain ⟨d', hrev, hls, hline, hpast', hfuture'⟩ :=
      Document.repeatChange_eq_done (d := { d with past := cs }) hleads.reversed hs.lines
        hs.line_nonneg
    rw [← Document.revert_eq_repeatChange] at hrev
    refine ⟨{ d' with
      future := Document.pushed (d.completed c) d'.future, modified := !d'.past.isEmpty },
      ?_, ⟨hls, ?_, ?_, ?_, hline⟩⟩
    · rw [Document.undo, hcs]
      simp only [hrev]
      rfl
    · show Past a d'.past as
      rw [hpast']
      exact hp
    · -- the future has room for the change that was taken back
      have hroom : (d.completed c :: d.future).length ≤ Document.historyLimit := by
        rw [List.length_cons, hs.future.length_eq]
        rw [List.length_cons] at hbound
        omega
      show Future a (Document.pushed (d.completed c) d'.future) (h.present :: h.future)
      rw [hfuture', Document.pushed, List.take_of_length_le hroom]
      exact .cons hleads hs.future
    · rw [List.length_cons] at hbound
      show as.length + (h.present :: h.future).length ≤ _
      rw [List.length_cons]
      omega

theorem redo_cons {b : Text} {bs : List Text} (hs : Simulates d h) (hfuture : h.future = b :: bs) :
    ∃ d', d.redo = .done d' true ∧ Simulates d' ⟨h.present :: h.past, b, bs⟩ := by
  have hf := hs.future
  have hbound := hs.bounded
  rw [hfuture] at hf hbound
  generalize hcs : d.future = cs at hf
  cases hf with
  | @cons c cs _ _ _ hc hf =>
    obtain ⟨d', hrep, hls, hline, hpast', hfuture'⟩ :=
      Document.repeatChange_eq_done
        (d := { d with future := cs, past := Document.pushed c d.past }) hc hs.lines hs.line_nonneg
    refine ⟨{ d' with modified := true }, ?_, ⟨hls, ?_, ?_, ?_, hline⟩⟩
    · rw [Document.redo, hcs]
      simp only [hrep]
      rfl
    · -- the past has room for the change that is made again
      have hroom : (c :: d.past).length ≤ Document.historyLimit := by
        rw [List.length_cons, hs.past.length_eq]
        rw [List.length_cons] at hbound
        omega
      show Past b d'.past (h.present :: h.past)
      rw [hpast', Document.pushed, List.take_of_length_le hroom]
      exact .cons (Or.inl hc) hs.past
    · show Future b d'.future bs
      rw [hfuture']
      exact hf
    · rw [List.length_cons] at hbound
      show (h.present :: h.past).length + bs.length ≤ _
      rw [List.length_cons]
      omega

/-! ### Calls that change lines -/

/-- A document and its history, taken apart at a line. -/
theorem exists_around (hs : Simulates d h) {n : Nat} (hn : n < (Text.lines h.present).length) :
    ∃ as l bs, as.length = n ∧ d.lines = as ++ l :: bs ∧ Text.lines h.present = as ++ l :: bs ∧
      h.present = unlines (as ++ l :: bs) ∧
      (∀ m ∈ as, '\n' ∉ m) ∧ '\n' ∉ l ∧ ∀ m ∈ bs, '\n' ∉ m := by
  obtain ⟨as, l, bs, hls, hlen⟩ := Document.exists_around hn
  have hnl := sep_notMem_of_mem_split '\n' h.present
  rw [show split '\n' h.present = as ++ l :: bs from hls, List.forall_mem_append,
    List.forall_mem_cons] at hnl
  refine ⟨as, l, bs, hlen, hs.lines.trans hls, hls, ?_, hnl⟩
  rw [← hls, unlines_lines]

/-- One line replaced, with a record that has its number. -/
theorem push_line {as bs : List Text} {l new : Text} (hs : Simulates d h)
    (hls : Text.lines h.present = as ++ l :: bs) (hnl : ∀ m ∈ as ++ new :: bs, '\n' ∉ m)
    (hlines : d'.lines = as ++ new :: bs)
    (hpast : d'.past = Document.pushed (.line as.length l new) d.past) (hfuture : d'.future = [])
    (hline : 0 ≤ d'.line) : Simulates d' (h.push (unlines (as ++ new :: bs))) := by
  have hback : Text.lines (unlines (as ++ new :: bs)) = as ++ new :: bs :=
    lines_unlines (by simp) hnl
  have hleads : (Change.line as.length l new).Leads h.present (unlines (as ++ new :: bs)) :=
    ⟨as, bs, rfl, hls, hback⟩
  exact hs.push (Or.inl hleads) (hlines.trans hback.symm) hpast hfuture hline

/-- Lines split, joined or deleted, with a record that is still open. -/
theorem push_snapshot {ls : List Text} (hs : Simulates d h) (hne : ls ≠ [])
    (hnl : ∀ l ∈ ls, '\n' ∉ l) (hlines : d'.lines = ls) (hpast : d'.past = d.snapshot.past)
    (hfuture : d'.future = []) (hline : 0 ≤ d'.line) : Simulates d' (h.push (unlines ls)) := by
  have hrecords : (Change.text d.cursor d.text d.text).Records h.present (unlines ls) := by
    rw [hs.text]
    exact Or.inr ⟨d.cursor, rfl⟩
  exact hs.push hrecords (hlines.trans (lines_unlines hne hnl).symm) hpast hfuture hline

end Simulates

namespace Operation

theorem offsetIn_around {t : Text} {as bs : List Text} {l : Text} (h : lines t = as ++ l :: bs)
    (c : Int) : offsetIn t as.length c = (above as).length + place l.length c := by
  rw [offsetIn, h, Document.lineStart_around, Document.getD_around]

/-- What a call has to do to a document and its history. -/
structure Keeps (op : Operation) (d : Document) (h : TextHistory) : Prop where
  simulates : Simulates (op.run d).state (h.step op)
  result : (op.run d).result = h.answer op
  idle : h.IsIdle op → (op.run d).state = d

variable {d d' : Document} {h : TextHistory} {op : Operation}

/-- A call that records a change. -/
theorem keeps_of_some {t : Text} (hnew : op.newText? h.present = some t)
    (hsim : Simulates (op.run d).state (h.push t)) (hres : (op.run d).result = h.answer op) :
    op.Keeps d h := by
  have hstep : h.step op = h.push t ∧ ¬ h.IsIdle op := by
    cases op
    case moveTo => simp [newText?] at hnew
    case undo => simp [newText?] at hnew
    case redo => simp [newText?] at hnew
    all_goals
      refine ⟨by simp only [TextHistory.step, hnew], fun hidle => ?_⟩
      rw [TextHistory.IsIdle, hnew] at hidle
      · exact absurd hidle (by simp)
      all_goals simp
  exact ⟨hstep.1 ▸ hsim, hres, fun hidle => absurd hidle hstep.2⟩

/-- A call that returns early or fails. -/
theorem keeps_of_none (hs : Simulates d h) (hnew : op.newText? h.present = none)
    (hundo : op ≠ undo) (hredo : op ≠ redo) (hrun : op.run d = ⟨d, h.answer op⟩) :
    op.Keeps d h := by
  have hstep : h.step op = h := by
    cases op
    case undo => exact absurd rfl hundo
    case redo => exact absurd rfl hredo
    all_goals simp only [TextHistory.step, hnew]
  constructor
  · rw [hstep, hrun]
    exact hs
  · rw [hrun]
  · intro _
    rw [hrun]

theorem notMem_around {as bs : List Text} {l : Text} (has : ∀ m ∈ as, '\n' ∉ m) (hl : '\n' ∉ l)
    (hbs : ∀ m ∈ bs, '\n' ∉ m) : ∀ m ∈ as ++ l :: bs, '\n' ∉ m :=
  List.forall_mem_append.2 ⟨has, List.forall_mem_cons.2 ⟨hl, hbs⟩⟩

theorem notMem_replace {l t : Text} {i j : Nat} (hl : '\n' ∉ l) (ht : '\n' ∉ t) :
    '\n' ∉ l.take i ++ t ++ l.drop j := by
  simp only [List.mem_append, not_or]
  exact ⟨⟨fun h => hl (List.mem_of_mem_take h), ht⟩, fun h => hl (List.mem_of_mem_drop h)⟩

/-! ### One case for each operation -/

theorem keeps_insert (hs : Simulates d h) (n : Nat) (c : Int) (t : OneLine) :
    (insert n c t).Keeps d h := by
  by_cases hn : n < (lines h.present).length
  · obtain ⟨as, l, bs, rfl, hd, hls, htext, has, hl, hbs⟩ := hs.exists_around hn
    have hrun := Document.insert_around hd c t
    refine keeps_of_some (t := unlines (as ++ (l.take (place l.length c) ++ t ++
      l.drop (place l.length c)) :: bs)) ?_ ?_ ?_
    · rw [newText?, if_pos hn, offsetIn_around hls, htext]
      rw [unlines_replace as l bs t (place_le _ _) (place_le _ _)]
    · rw [run, hrun]
      exact hs.push_line hls (notMem_around has (notMem_replace hl t.2) hbs) rfl rfl rfl
        hs.line_nonneg
    · rw [run, hrun]
      rfl
  · have hrun : d.insert n c t = .done d () := by
      rw [Document.insert, if_pos]
      rw [hs.lines]
      omega
    refine keeps_of_none hs ?_ (by simp) (by simp) (by rw [run, hrun]; rfl)
    rw [newText?, if_neg hn]

theorem keeps_delete (hs : Simulates d h) (n : Nat) (i j : Int) : (delete n i j).Keeps d h := by
  by_cases hn : n < (lines h.present).length
  · obtain ⟨as, l, bs, rfl, hd, hls, htext, has, hl, hbs⟩ := hs.exists_around hn
    have hrun := Document.delete_around hd i j
    have hnew : '\n' ∉ l.take (place l.length i) ++ l.drop (place l.length j) := by
      have := notMem_replace (t := []) (i := place l.length i) (j := place l.length j) hl (by simp)
      rwa [List.append_nil] at this
    refine keeps_of_some (t := unlines (as ++ (l.take (place l.length i) ++
      l.drop (place l.length j)) :: bs)) ?_ ?_ ?_
    · have hflat := unlines_replace as l bs [] (place_le l.length i) (place_le l.length j)
      rw [List.append_nil, List.append_nil] at hflat
      rw [newText?, if_pos hn, offsetIn_around hls, offsetIn_around hls, htext, hflat]
    · rw [run, hrun]
      exact hs.push_line hls (notMem_around has hnew hbs) rfl rfl rfl hs.line_nonneg
    · rw [run, hrun]
      rfl
  · have hrun : d.delete n i j = .done d () := by
      rw [Document.delete, if_pos]
      rw [hs.lines]
      omega
    refine keeps_of_none hs ?_ (by simp) (by simp) (by rw [run, hrun]; rfl)
    rw [newText?, if_neg hn]

theorem keeps_split (hs : Simulates d h) (n : Nat) (c : Int) : (split n c).Keeps d h := by
  by_cases hn : n < (lines h.present).length
  · obtain ⟨as, l, bs, rfl, hd, hls, htext, has, hl, hbs⟩ := hs.exists_around hn
    have hrun := Document.split_around hd c
    have htake : '\n' ∉ l.take (place l.length c) := fun hm => hl (List.mem_of_mem_take hm)
    have hdrop : '\n' ∉ l.drop (place l.length c) := fun hm => hl (List.mem_of_mem_drop hm)
    refine keeps_of_some (t := unlines (as ++ l.take (place l.length c) ::
      l.drop (place l.length c) :: bs)) ?_ ?_ ?_
    · rw [newText?, if_pos hn, offsetIn_around hls, htext, unlines_break as l bs (place_le _ _)]
    · rw [run, hrun]
      have hnl := notMem_around has htake (List.forall_mem_cons.2 ⟨hdrop, hbs⟩)
      refine hs.push_snapshot (by simp) hnl rfl rfl rfl ?_
      show (0 : Int) ≤ as.length + 1
      omega
    · rw [run, hrun]
      rfl
  · have hrun : d.split n c = .done d () := by
      rw [Document.split, if_pos]
      rw [hs.lines]
      omega
    refine keeps_of_none hs ?_ (by simp) (by simp) (by rw [run, hrun]; rfl)
    rw [newText?, if_neg hn]

theorem keeps_join (hs : Simulates d h) (n : Nat) : (join n).Keeps d h := by
  by_cases hn : 0 < n ∧ n < (lines h.present).length
  · obtain ⟨as, l, bs, rfl, hd, hls, htext, has, hl, hbs⟩ := hs.exists_around hn.2
    obtain ⟨as, p, rfl⟩ := (List.eq_nil_or_concat' as).resolve_left (List.length_pos_iff.1 hn.1)
    obtain ⟨has, hp⟩ := List.forall_mem_append.1 has
    have happ : as ++ [p] ++ l :: bs = as ++ p :: l :: bs := by simp
    have hlen : ((as ++ [p]).length : Int) = as.length + 1 := by simp
    have hrun := Document.join_around (hd.trans happ)
    rw [← hlen] at hrun
    have hnew : '\n' ∉ p ++ l := by
      simp only [List.mem_append, not_or]
      exact ⟨hp p (by simp), hl⟩
    refine keeps_of_some (t := unlines (as ++ (p ++ l) :: bs)) ?_ ?_ ?_
    · rw [newText?, if_pos hn, hls, Document.lineStart_around, htext, happ, ← unlines_join]
    · rw [run, hrun]
      refine hs.push_snapshot (by simp) (notMem_around has hnew hbs) rfl rfl rfl ?_
      show (0 : Int) ≤ as.length
      omega
    · rw [run, hrun]
      rfl
  · have hrun : d.join n = d := by
      rw [Document.join, if_neg]
      rw [hs.lines]
      omega
    refine keeps_of_none hs ?_ (by simp) (by simp) (by rw [run, hrun]; rfl)
    rw [newText?, if_neg hn]

/-- Deleting a line that is there and not the only one. -/
theorem keeps_deleteLine_of_around {as bs : List Text} {l : Text} (hs : Simulates d h)
    (hd : d.lines = as ++ l :: bs) (hne : as ++ bs ≠ []) (has : ∀ m ∈ as, '\n' ∉ m)
    (hbs : ∀ m ∈ bs, '\n' ∉ m)
    (hnew : (deleteLine as.length).newText? h.present = some (unlines (as ++ bs))) :
    (deleteLine as.length).Keeps d h := by
  have hrun := Document.deleteLine_around hd hne
  refine keeps_of_some hnew ?_ ?_
  · rw [run, hrun]
    refine hs.push_snapshot hne (List.forall_mem_append.2 ⟨has, hbs⟩) rfl rfl rfl ?_
    have hpos := List.length_pos_iff.2 hne
    have hline := hs.line_nonneg
    show 0 ≤ (if (as.length : Int) < d.line then _ else _)
    split
    · omega
    · split
      · omega
      · exact hline
  · rw [run, hrun]
    rfl

theorem keeps_deleteLine (hs : Simulates d h) (n : Nat) : (deleteLine n).Keeps d h := by
  by_cases hn : n < (lines h.present).length ∧ (lines h.present).length ≠ 1
  · obtain ⟨as, l, bs, rfl, hd, hls, htext, has, hl, hbs⟩ := hs.exists_around hn.1
    rw [hls, List.length_append, List.length_cons] at hn
    cases bs with
    | nil =>
      -- the last line goes with the newline in front of it
      have hpos : 0 < as.length := by
        rw [List.length_nil] at hn
        omega
      obtain ⟨as, p, rfl⟩ := (List.eq_nil_or_concat' as).resolve_left (List.length_pos_iff.1 hpos)
      refine keeps_deleteLine_of_around hs hd (by simp) has hbs ?_
      rw [newText?, hls, if_neg (by simp), if_pos (by simp), Document.lineStart_around, htext,
        ← unlines_erase_last, List.append_nil]
    | cons b bs =>
      refine keeps_deleteLine_of_around hs hd (by simp) has hbs ?_
      have hnext : Document.lineStart (as ++ l :: b :: bs) (as.length + 1) =
          (above (as ++ [l])).length := by
        have := Document.lineStart_around (as ++ [l]) (b :: bs)
        simpa using this
      rw [newText?, hls, if_pos (by simp), hnext, Document.lineStart_around, htext,
        ← unlines_erase]
  · have hrun : d.deleteLine n = .done d () := by
      rw [Document.deleteLine, if_pos]
      rw [hs.lines]
      omega
    refine keeps_of_none hs ?_ (by simp) (by simp) (by rw [run, hrun]; rfl)
    rw [newText?, if_neg (by omega), if_neg (by omega)]

theorem keeps_applyEdits (hs : Simulates d h) (es : List Edit) : (applyEdits es).Keeps d h := by
  cases es with
  | nil => exact keeps_of_none hs rfl (by simp) (by simp) rfl
  | cons e es =>
    cases hnew : Edit.applyAll h.present (e :: es) with
    | error x =>
      have hrun : d.applyEdits (e :: es) = .failed d (.edit x) := by
        simp only [Document.applyEdits, hs.text, hnew]
      refine keeps_of_none hs ?_ (by simp) (by simp) ?_
      · rw [newText?, hnew]
        · rfl
        · simp
      · rw [run, hrun]
        simp only [TextHistory.answer, hnew]
        rfl
    | ok t =>
      have hrun : d.applyEdits (e :: es) = .done (d.withText t) (e :: es).length :=
        Document.applyEdits_eq_done hs.line_nonneg (List.cons_ne_nil e es) (hs.text.symm ▸ hnew)
      have hleads : (Change.text d.cursor d.text t).Leads h.present t := ⟨hs.text, rfl⟩
      refine keeps_of_some (t := t) ?_ ?_ ?_
      · rw [newText?, hnew]
        · rfl
        · simp
      · rw [run, hrun]
        exact hs.push (Or.inl hleads) rfl rfl rfl (Int.natCast_nonneg _)
      · rw [run, hrun]
        simp only [TextHistory.answer, hnew]
        rfl

/-- Moving the cursor leaves the history alone. -/
theorem keeps_moveTo (hs : Simulates d h) (o : Int) : (moveTo o).Keeps d h where
  simulates := ⟨hs.lines, hs.past, hs.future, hs.bounded, by
    show (0 : Int) ≤ ((d.positionOf o).1 : Nat)
    omega⟩
  result := rfl
  idle := fun hidle => absurd hidle id

theorem keeps_undo (hs : Simulates d h) : undo.Keeps d h := by
  cases hpast : h.past with
  | nil =>
    have hrun := hs.undo_nil hpast
    refine ⟨?_, ?_, fun _ => by rw [run, hrun]; rfl⟩
    · rw [run, hrun, TextHistory.step, TextHistory.back, hpast]
      exact hs
    · rw [run, hrun, TextHistory.answer, hpast]
      rfl
  | cons a as =>
    obtain ⟨d', hrun, hs'⟩ := hs.undo_cons hpast
    refine ⟨?_, ?_, fun hidle => ?_⟩
    · rw [run, hrun, TextHistory.step, TextHistory.back, hpast]
      exact hs'
    · rw [run, hrun, TextHistory.answer, hpast]
      rfl
    · rw [TextHistory.IsIdle, hpast] at hidle
      exact absurd hidle (by simp)

theorem keeps_redo (hs : Simulates d h) : redo.Keeps d h := by
  cases hfuture : h.future with
  | nil =>
    have hrun := hs.redo_nil hfuture
    refine ⟨?_, ?_, fun _ => by rw [run, hrun]; rfl⟩
    · rw [run, hrun, TextHistory.step, TextHistory.forward, hfuture]
      exact hs
    · rw [run, hrun, TextHistory.answer, hfuture]
      rfl
  | cons b bs =>
    obtain ⟨d', hrun, hs'⟩ := hs.redo_cons hfuture
    refine ⟨?_, ?_, fun hidle => ?_⟩
    · rw [run, hrun, TextHistory.step, TextHistory.forward, hfuture]
      exact hs'
    · rw [run, hrun, TextHistory.answer, hfuture]
      rfl
    · rw [TextHistory.IsIdle, hfuture] at hidle
      exact absurd hidle (by simp)

/-- **One step.**  Every call does to the document what it does to the history. -/
theorem keeps (hs : Simulates d h) : ∀ op : Operation, op.Keeps d h
  | insert n c t => keeps_insert hs n c t
  | delete n i j => keeps_delete hs n i j
  | split n c => keeps_split hs n c
  | join n => keeps_join hs n
  | deleteLine n => keeps_deleteLine hs n
  | applyEdits es => keeps_applyEdits hs es
  | moveTo o => keeps_moveTo hs o
  | undo => keeps_undo hs
  | redo => keeps_redo hs

/-- **A run.**  Calls in any order keep a document and its history together. -/
theorem simulates_runAll (hs : Simulates d h) (ops : List Operation) :
    Simulates (runAll d ops) (h.stepAll ops) := by
  -- on the calls, for every document and history that agree before the first of them
  induction ops generalizing d h with
  | nil => exact hs
  | cons op ops ih => exact ih (keeps hs op).simulates

/-- **Undo and redo move along a history of texts.**  After any calls to a document that starts with
    a text, its lines are those of the present text, its two lists of changes are as long as the past
    and the future, together at most a hundred, and the next call gives back what the history says;
    if there is nothing for it to do, it leaves the document as it is. -/
theorem history_of_run (t : Text) (ops : List Operation) :
    let d := runAll (.ofText t) ops
    let h := (TextHistory.start t).stepAll ops
    d.lines = lines h.present ∧ d.past.length = h.past.length ∧
      d.future.length = h.future.length ∧ d.past.length + d.future.length ≤ 100 ∧
      ∀ op : Operation, (op.run d).result = h.answer op ∧ (h.IsIdle op → (op.run d).state = d) := by
  intro d h
  have hs : Simulates d h := simulates_runAll (Simulates.ofText t) ops
  have hpast := hs.past.length_eq
  have hfuture := hs.future.length_eq
  refine ⟨hs.lines, hpast, hfuture, ?_, fun op => ⟨(keeps hs op).result, (keeps hs op).idle⟩⟩
  rw [hpast, hfuture]
  exact hs.bounded

/-- A line broken and mended again: nothing is left to undo, and one change to redo. -/
theorem history_of_run_mended :
    let d := runAll (.ofText ['a', 'b']) [split 0 1, undo]
    ((TextHistory.start ['a', 'b']).stepAll [split 0 1, undo]).IsIdle undo ∧
      (undo.run d).state = d ∧ (undo.run d).result = .ok (.moved false) ∧
      d.lines = [['a', 'b']] ∧ d.past.length = 0 ∧ d.future.length = 1 := by
  intro d
  have hidle : ((TextHistory.start ['a', 'b']).stepAll [split 0 1, undo]).IsIdle undo := rfl
  obtain ⟨hlines, hpast, hfuture, -, hcalls⟩ := history_of_run ['a', 'b'] [split 0 1, undo]
  obtain ⟨hresult, hstate⟩ := hcalls undo
  exact ⟨hidle, hstate hidle, hresult, hlines, hpast, hfuture⟩

end Operation

end Respell
