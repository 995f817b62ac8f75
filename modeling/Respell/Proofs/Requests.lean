/-
  Carrying a request out.

  A request can go wrong in many places: its value or its base may be refused, a number on the way to its
  literal may be too long to be read, the literals it is about too long to be written, and the edits that
  come out may not fit the text.  This file proves that all of them lie in front of the first change to
  the document, and says what the document is when the last one has been passed.

  1. **One edit set** (`replaced_withText`).  The document with another text is one term, so what an edit
     set changes, and what it leaves alone, can be read off it.

  2. **Taking it back** (`undo_withText`).  The record that an edit set leaves has the old text and the
     old cursor.  Lines without newlines come back as they were, and so does a cursor that stood inside.

  3. **The ends of a request** (`ends_replace`).  There are six, one for each way through it; the
     document is another one after the last of them only.
-/
import Respell.Proofs.CursorKept
import Respell.Proofs.Cycling
import Respell.Proofs.Places

namespace Respell

open Text (split_ne_nil)

namespace Document

variable {d : Document}

/-! ## One edit set -/

/-- What a document with another text has of its own, and what it shares with the document that it was. -/
structure Replaced (d : Document) (new : Text) (d' : Document) : Prop where
  text : d'.text = new
  lines : d'.lines = Text.lines new
  cursor : d'.cursor = min d.cursor new.length
  past : d'.past = (.text d.cursor d.text new :: d.past).take 100
  future : d'.future = []
  modified : d'.modified = true
  filename : d'.filename = d.filename
  language : d'.language = d.language
  finalNewline : d'.finalNewline = d.finalNewline

theorem replaced_withText (hin : d.CursorInside) (new : Text) : d.Replaced new (d.withText new) where
  text := Text.unlines_lines new
  lines := rfl
  cursor := by
    obtain ⟨as, left, right, bs, hf⟩ := hin.focused
    obtain ⟨o, ho⟩ : ∃ o : Nat, min d.cursor new.length = o :=
      Int.eq_ofNat_of_zero_le (by rw [hf.cursor]; omega)
    have htext : { d with lines := Text.lines new }.text = new := Text.unlines_lines new
    have hmoved := cursor_moveTo (d := { d with lines := Text.lines new }) (split_ne_nil '\n' new)
      (o := o) (by rw [htext]; omega)
    rw [← ho] at hmoved
    exact hmoved
  past := rfl
  future := rfl
  modified := rfl
  filename := rfl
  language := rfl
  finalNewline := rfl

/-! ## Taking it back -/

/-- **One undo** brings the lines and the cursor back, and leaves the change to be made again. -/
theorem undo_withText (hlines : ∀ l ∈ d.lines, '\n' ∉ l) (hin : d.CursorInside) (new : Text) :
    (d.withText new).undo = .done
      { d with
        past := d.past.take 99
        future := [.text d.cursor d.text new]
        modified := !(d.past.take 99).isEmpty } true := by
  have hpast : (d.withText new).past = .text d.cursor d.text new :: d.past.take 99 := rfl
  have hcompleted : (d.withText new).completed (.text d.cursor d.text new) =
      .text d.cursor d.text new := by
    have htext : (d.withText new).text = new := Text.unlines_lines new
    rw [completed, htext, ite_self]
  -- the cursor is sent to where it was in the lines that it was in
  have hlow : 0 ≤ { d.withText new with past := d.past.take 99 }.line := Int.natCast_nonneg _
  obtain ⟨_, _, -, hset⟩ := exists_setText hlow d.text
  have hrevert : { d.withText new with past := d.past.take 99 }.revert (.text d.cursor d.text new) =
      .done { d.moveTo d.cursor with past := d.past.take 99, future := [], modified := true } () := by
    rw [revert, hset, text, Text.lines_unlines hin.lines_ne_nil hlines]
    rfl
  rw [moveTo_cursor hin] at hrevert
  unfold undo
  rw [hpast]
  dsimp only
  rw [hcompleted, hrevert]
  rfl

end Document

namespace Session

variable {s : Session} {d : Document} {r : Request}

/-! ## The ends of a request -/

/-- What can come of a request in a document. -/
inductive Ends (s : Session) (d : Document) (r : Request) : Attempt Document Failure Nat → Prop where
  /-- The request is refused, or the number at the cursor cannot be read. -/
  | refused (x : RespellingError) : r.policy d.text (some d.cursor) = .error x →
      Ends s d r (.failed d (.ofRespelling x))
  /-- There is no literal at the cursor. -/
  | absent : r.policy d.text (some d.cursor) = .ok none → Ends s d r (.done d 0)
  /-- A number cannot be read or written. -/
  | unwritten (p : Policy) (x : NumeralError) : r.policy d.text (some d.cursor) = .ok (some p) →
      p.edits s.guard d.text = .error x → Ends s d r (.failed d (.numeral x))
  /-- No literal is to be respelled. -/
  | idle (p : Policy) : r.policy d.text (some d.cursor) = .ok (some p) →
      p.edits s.guard d.text = .ok [] → Ends s d r (.done d 0)
  /-- The edits do not fit the text. -/
  | misplaced (p : Policy) (es : List Edit) (x : EditError) :
      r.policy d.text (some d.cursor) = .ok (some p) → p.edits s.guard d.text = .ok es →
      Edit.applyAll d.text es = .error x → Ends s d r (.failed d (.edit x))
  /-- The edits are carried out. -/
  | made (p : Policy) (es : List Edit) (new : Text) :
      r.policy d.text (some d.cursor) = .ok (some p) → p.edits s.guard d.text = .ok es → es ≠ [] →
      Edit.applyAll d.text es = .ok new → Ends s d r (.done (d.withText new) es.length)

/-- **A request ends in one of six ways.** -/
theorem ends_replace (hin : d.CursorInside) (s : Session) (r : Request) :
    Ends s d r (s.replace d r) := by
  cases hp : r.policy d.text (some d.cursor) with
  | error x =>
    rw [replace, requestEdits, hp]
    exact .refused x hp
  | ok found =>
    cases found with
    | none =>
      rw [replace, requestEdits, hp]
      exact .absent hp
    | some p =>
      rw [replace_of_policy hp]
      cases hes : p.edits s.guard d.text with
      | error x => exact .unwritten p x hp hes
      | ok es =>
        show Ends s d r (applyMade d (.ok es))
        by_cases hnil : es = []
        · subst hnil
          exact .idle p hp hes
        · rw [applyMade]
          cases hnew : Edit.applyAll d.text es with
          | error x =>
            rw [Document.applyEdits_failed hnew]
            exact .misplaced p es x hp hes hnew
          | ok new =>
            rw [Document.applyEdits_eq_done hin.line_nonneg hnil hnew]
            exact .made p es new hp hes hnil hnew

theorem Ends.state_of_error {work : Attempt Document Failure Nat} (h : Ends s d r work) {x : Failure}
    (hx : work.result = .error x) :
    work.state = d ∧ ((∃ y, x = .request y) ∨ (∃ y, x = .edit y) ∨ ∃ y, x = .numeral y) := by
  cases h with
  | refused y =>
    obtain rfl := Except.error.inj hx
    refine ⟨rfl, ?_⟩
    cases y with
    | request y => exact .inl ⟨y, rfl⟩
    | edit y => exact .inr (.inl ⟨y, rfl⟩)
    | numeral y => exact .inr (.inr ⟨y, rfl⟩)
  | unwritten p y =>
    obtain rfl := Except.error.inj hx
    exact ⟨rfl, .inr (.inr ⟨y, rfl⟩)⟩
  | misplaced p es y =>
    obtain rfl := Except.error.inj hx
    exact ⟨rfl, .inr (.inl ⟨y, rfl⟩)⟩
  | absent | idle | made => cases hx

theorem Ends.state_of_zero {work : Attempt Document Failure Nat} (h : Ends s d r work)
    (hx : work.result = .ok 0) : work.state = d := by
  cases h with
  | made p es new hp hes hne =>
    exact absurd (List.length_eq_zero_iff.1 (Except.ok.inj hx)) hne
  | refused | absent | unwritten | idle | misplaced => rfl

theorem Ends.exists_of_succ {work : Attempt Document Failure Nat} (h : Ends s d r work) {n : Nat}
    (hx : work.result = .ok (n + 1)) :
    ∃ p es new, r.policy d.text (some d.cursor) = .ok (some p) ∧ p.edits s.guard d.text = .ok es ∧
      es.length = n + 1 ∧ Edit.applyAll d.text es = .ok new ∧ work.state = d.withText new := by
  cases h with
  | made p es new hp hes hne hnew => exact ⟨p, es, new, hp, hes, Except.ok.inj hx, hnew, rfl⟩
  | refused | absent | unwritten | idle | misplaced => cases hx

/-- A request whose edits can be made and fit is carried out. -/
theorem result_of_applyAll (hin : d.CursorInside) {p : Policy} {es : List Edit} {new : Text}
    (hp : r.policy d.text (some d.cursor) = .ok (some p)) (hes : p.edits s.guard d.text = .ok es)
    (hnew : Edit.applyAll d.text es = .ok new) : (s.replace d r).result = .ok es.length := by
  rw [replace_of_policy hp, hes]
  show (applyMade d (.ok es)).result = .ok es.length
  by_cases hnil : es = []
  · subst hnil
    rfl
  · rw [applyMade, Document.applyEdits_eq_done hin.line_nonneg hnil hnew]
    rfl

/-- **A request is carried out as a whole or not at all.**  In a document with its cursor inside and no
    newline in a line: if the request fails, which it does for one of three reasons, the document is as
    it was, and so it is if no literal is respelled.  Otherwise their number is that of the edits that
    were made for the old text; the document has the text that these give, one change more to be undone
    and none to be done again, counts as modified, and has the cursor where it was or at the end; and
    one undo brings the lines and the cursor back. -/
theorem request_all_or_nothing (s : Session) {d : Document} (hlines : ∀ l ∈ d.lines, '\n' ∉ l)
    (hin : d.CursorInside) (r : Request) :
    (∀ x, (s.replace d r).result = .error x → (s.replace d r).state = d ∧
      ((∃ y, x = .request y) ∨ (∃ y, x = .edit y) ∨ ∃ y, x = .numeral y)) ∧
    ((s.replace d r).result = .ok 0 → (s.replace d r).state = d) ∧
    (∀ n, (s.replace d r).result = .ok (n + 1) →
      ∃ p es new, r.policy d.text (some d.cursor) = .ok (some p) ∧ p.edits s.guard d.text = .ok es ∧
        es.length = n + 1 ∧ Edit.applyAll d.text es = .ok new ∧
        d.Replaced new (s.replace d r).state ∧
        (s.replace d r).state.undo = .done
          { d with
            past := d.past.take 99
            future := [.text d.cursor d.text new]
            modified := !(d.past.take 99).isEmpty } true) ∧
    ∀ p es new, r.policy d.text (some d.cursor) = .ok (some p) → p.edits s.guard d.text = .ok es →
      Edit.applyAll d.text es = .ok new → (s.replace d r).result = .ok es.length := by
  have hends := ends_replace hin s r
  refine ⟨fun x => hends.state_of_error, hends.state_of_zero, fun n hn => ?_,
    fun p es new => result_of_applyAll hin⟩
  obtain ⟨p, es, new, hp, hes, hlength, hnew, hstate⟩ := hends.exists_of_succ hn
  rw [hstate]
  exact ⟨p, es, new, hp, hes, hlength, hnew, Document.replaced_withText hin new,
    Document.undo_withText hlines hin new⟩

/-- Both tens are written in decimal, with the cursor at the end of the second line, which comes nearer;
    one undo brings the cursor back out.  A negative value changes nothing. -/
theorem request_all_or_nothing_two_tens :
    let d := (Document.ofText "x = 0x0A\ny = 10".toList).moveTo 15
    let s := Session.start Settings.default none
    let r : Request := ⟨10, "dec", "10".toList, none, true, true⟩
    (∀ l ∈ d.lines, '\n' ∉ l) ∧ d.CursorInside ∧
      (s.replace d r).result = .ok (1 + 1) ∧ (s.replace d r).state.text = "x = 10\ny = 10".toList ∧
      (s.replace d r).state.cursor = 13 ∧ (s.replace d r).state.undo.state.cursor = 15 ∧
      (s.replace d { r with value := -10 }).result = .error (.request .negativeValue) ∧
      (s.replace d { r with value := -10 }).state = d := by
  intro d s r
  have hlines : ∀ l ∈ d.lines, '\n' ∉ l := by decide
  have hin : d.CursorInside := ⟨by decide, by decide, by decide, by decide⟩
  have hresult : (s.replace d r).result = .ok (1 + 1) := by decide +kernel
  have hrefused : (s.replace d { r with value := -10 }).result = .error (.request .negativeValue) := by
    decide +kernel
  obtain ⟨-, -, hmade, -⟩ := request_all_or_nothing s hlines hin r
  obtain ⟨-, -, new, -, -, -, -, hreplaced, hundo⟩ := hmade 1 hresult
  have htext : (s.replace d r).state.text = "x = 10\ny = 10".toList := by decide +kernel
  have hlength : new.length = 13 := by
    rw [← hreplaced.text, htext]
    rfl
  have hcursor : d.cursor = 15 := by decide
  refine ⟨hlines, hin, hresult, htext, ?_, ?_, hrefused,
    ((request_all_or_nothing s hlines hin { r with value := -10 }).1 _ hrefused).1⟩
  · rw [hreplaced.cursor, hlength, hcursor]
    decide
  · rw [hundo]
    exact hcursor

end Session

end Respell
