/-
  Calls to a document and the file it is kept in.

  A document knows the name of its file, and whether there was a newline at its end.  Only reading and
  saving change these two.  This file says so for every call that edits a document, puts its cursor
  somewhere or goes through its history (`Document.Call`), with any arguments and whether it succeeds or
  not: lines count from either end, texts may have newlines in them, and a call that fails leaves behind
  what it left behind.

  The step is `sameFiling_after`, with one case for each call, and the run is an induction
  (`sameFiling_runCalls`).
-/
import Respell.Proofs.History

namespace Respell

theorem Attempt.state_andThen_induction {σ ε α β : Type} {p : σ → Prop} {x : Attempt σ ε α}
    {f : σ → α → Attempt σ ε β} (hx : p x.state) (hf : ∀ a, p (f x.state a).state) :
    p (x.andThen f).state := by
  unfold andThen
  cases x.result with
  | ok a => exact hf a
  | error e => exact hx

namespace Document

variable {d d' d'' : Document}

/-! ## Calls -/

/-- A call to a document, with any arguments: one that edits it, puts its cursor somewhere, or goes
    through its history. -/
inductive Call where
  | setText (t : Text)
  | place (line column : Int)
  | moveTo (offset : Int)
  | insert (line column : Int) (t : Text)
  | delete (line start stop : Int)
  | split (line column : Int)
  | join (line : Int)
  | deleteLine (line : Int)
  | applyEdits (es : List Edit)
  | undo
  | redo
  deriving DecidableEq, Repr

/-- The document after a call; one that fails leaves behind what it left behind. -/
def after (d : Document) : Call → Document
  | .setText t => (d.setText t).state
  | .place line column => { d with line, column }
  | .moveTo offset => d.moveTo offset
  | .insert line column t => (d.insert line column t).state
  | .delete line start stop => (d.delete line start stop).state
  | .split line column => (d.split line column).state
  | .join line => d.join line
  | .deleteLine line => (d.deleteLine line).state
  | .applyEdits es => (d.applyEdits es).state
  | .undo => d.undo.state
  | .redo => d.redo.state

/-- The document after some calls. -/
def runCalls (d : Document) (cs : List Call) : Document := cs.foldl after d

/-! ## How a document is kept -/

/-- Whether two documents are kept in one file in one way. -/
def SameFiling (d d' : Document) : Prop := d'.filename = d.filename ∧ d'.finalNewline = d.finalNewline

theorem SameFiling.refl (d : Document) : d.SameFiling d := ⟨rfl, rfl⟩

theorem SameFiling.trans (h : d.SameFiling d') (h' : d'.SameFiling d'') : d.SameFiling d'' :=
  ⟨h'.1.trans h.1, h'.2.trans h.2⟩

theorem sameFiling_setText (d : Document) (t : Text) : d.SameFiling (d.setText t).state := by
  unfold setText
  dsimp only
  split <;> exact ⟨rfl, rfl⟩

/-- Edits do not touch how a document is kept. -/
theorem sameFiling_applyEdits (d : Document) (es : List Edit) :
    d.SameFiling (d.applyEdits es).state := by
  cases es with
  | nil => exact ⟨rfl, rfl⟩
  | cons e es =>
    unfold applyEdits
    dsimp only
    split
    · exact ⟨rfl, rfl⟩
    · exact Attempt.state_andThen_induction (p := d.SameFiling) (d.sameFiling_setText _)
        fun _ => d.sameFiling_setText _

theorem sameFiling_insert (d : Document) (line column : Int) (t : Text) :
    d.SameFiling (d.insert line column t).state := by
  unfold insert
  split
  · exact .refl d
  · split <;> exact ⟨rfl, rfl⟩

theorem sameFiling_delete (d : Document) (line start stop : Int) :
    d.SameFiling (d.delete line start stop).state := by
  unfold delete
  split
  · exact .refl d
  · split <;> exact ⟨rfl, rfl⟩

theorem sameFiling_split (d : Document) (line column : Int) :
    d.SameFiling (d.split line column).state := by
  unfold split
  split
  · exact .refl d
  · dsimp only
    split <;> exact ⟨rfl, rfl⟩

theorem sameFiling_join (d : Document) (line : Int) : d.SameFiling (d.join line) := by
  unfold join
  split <;> exact ⟨rfl, rfl⟩

theorem sameFiling_deleteLine (d : Document) (line : Int) :
    d.SameFiling (d.deleteLine line).state := by
  unfold deleteLine
  split
  · exact .refl d
  · dsimp only
    split <;> exact ⟨rfl, rfl⟩

/-- Making a change again does not touch how a document is kept. -/
theorem sameFiling_repeatChange (d : Document) (c : Change) :
    d.SameFiling (d.repeatChange c).state := by
  cases c with
  | text cursor old new =>
    exact Attempt.state_andThen_induction (p := d.SameFiling) (d.sameFiling_setText new)
      fun _ => d.sameFiling_setText new
  | line n old new =>
    show d.SameFiling (d.putLine n new)
    unfold putLine
    split <;> exact ⟨rfl, rfl⟩

theorem sameFiling_undo (d : Document) : d.SameFiling d.undo.state := by
  unfold undo
  split
  · exact .refl d
  · rename_i c past _
    have hkeep : d.SameFiling ({ d with past }.revert (d.completed c)).state := by
      rw [revert_eq_repeatChange]
      exact sameFiling_repeatChange { d with past } _
    exact Attempt.state_andThen_induction (p := d.SameFiling) hkeep fun _ => hkeep

theorem sameFiling_redo (d : Document) : d.SameFiling d.redo.state := by
  unfold redo
  split
  · exact .refl d
  · rename_i c future _
    have hkeep := sameFiling_repeatChange { d with future, past := pushed c d.past } c
    exact Attempt.state_andThen_induction (p := d.SameFiling) hkeep fun _ => hkeep

/-- **One call** does not touch how a document is kept. -/
theorem sameFiling_after (d : Document) : ∀ c : Call, d.SameFiling (d.after c)
  | .setText t => d.sameFiling_setText t
  | .place _ _ => ⟨rfl, rfl⟩
  | .moveTo _ => ⟨rfl, rfl⟩
  | .insert line column t => d.sameFiling_insert line column t
  | .delete line start stop => d.sameFiling_delete line start stop
  | .split line column => d.sameFiling_split line column
  | .join line => d.sameFiling_join line
  | .deleteLine line => d.sameFiling_deleteLine line
  | .applyEdits es => d.sameFiling_applyEdits es
  | .undo => d.sameFiling_undo
  | .redo => d.sameFiling_redo

/-- **A run of calls** does not, either. -/
theorem sameFiling_runCalls (d : Document) (cs : List Call) : d.SameFiling (d.runCalls cs) := by
  induction cs generalizing d with
  | nil => exact .refl d
  | cons c cs ih => exact (d.sameFiling_after c).trans (ih (d.after c))

end Document

end Respell
