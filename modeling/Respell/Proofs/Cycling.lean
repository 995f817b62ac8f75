/-
  Cycling through the bases leaves no trace.

  1. **One pass** writes every literal of a text in a base.  On spaced pieces it respells the
     numerals and keeps the gaps (`cycleText_fill`); its edits are in order and never refused.

  2. **Two passes** are as good as the second alone (`cycleText_refill`).  The first leaves the pieces
     spaced, so the second finds the same places again; and only the worth of a numeral matters when
     it is written anew.  Even the reason why a pass fails is the same.

  3. **Many passes.**  A session takes one format after another.  What each step keeps
     (`StandsFor.toggled`) is that every pass from the text as it is would give what it gives from
     the first text.  A pass that fails keeps it too, because it changes nothing.
-/
import Respell.Session
import Respell.Proofs.Changes
import Mathlib.Logic.Function.Iterate

namespace Respell

open Literal (Spelling spellings scan Delimited)
open Numeral (IsNumeral worth respelling)

/-! ## Numerals written anew -/

namespace Numeral

/-- Numerals that can be written anew have worths, and the new ones have the same. -/
theorem exists_worths {b : Base} : ∀ {ss rs : List Text}, ss.map (respelling b) = rs.map .ok →
    ∃ ns : List Nat, ss.map worth = ns.map .ok ∧ rs.map worth = ns.map .ok
  | [], [], _ => ⟨[], rfl, rfl⟩
  | s :: ss, r :: rs, h => by
    rw [List.map_cons, List.map_cons, List.cons.injEq] at h
    obtain ⟨n, hn, -⟩ := worth_of_respelling h.1
    obtain ⟨ns, hss, hrs⟩ := exists_worths h.2
    refine ⟨n :: ns, ?_, ?_⟩
    · rw [List.map_cons, List.map_cons, hn, hss]
    · rw [List.map_cons, List.map_cons, worth_respelling h.1, hn, hrs]

/-- What numerals are written anew from is one of the old ones. -/
theorem exists_of_mem_respelled {b : Base} {ss rs : List Text}
    (h : ss.map (respelling b) = rs.map .ok) {r : Text} (hr : r ∈ rs) :
    ∃ s ∈ ss, respelling b s = .ok r := by
  have hmem : Except.ok r ∈ ss.map (respelling b) := h ▸ List.mem_map_of_mem hr
  exact List.mem_map.1 hmem

/-- Numerals written anew are written anew a second time just as the old ones. -/
theorem map_respelling {b : Base} (b' : Base) : ∀ {ss rs : List Text},
    ss.map (respelling b) = rs.map .ok → rs.map (respelling b') = ss.map (respelling b')
  | [], [], _ => rfl
  | s :: ss, r :: rs, h => by
    rw [List.map_cons, List.map_cons, List.cons.injEq] at h
    rw [List.map_cons, List.map_cons, respelling_respelling h.1, map_respelling b' h.2]

end Numeral

/-! ## Edits that write pieces anew -/

namespace Piece

variable {last : Text} {ps : List Piece}

/-- The edits that put other spellings into pieces that stand behind an offset. -/
def replacements (pos : Nat) : List Piece → List Text → List Edit
  | p :: ps, r :: rs =>
    ⟨(pos + p.gap.length : Nat), (pos + p.gap.length + p.spelling.length : Nat), r⟩ ::
      replacements (pos + p.gap.length + p.spelling.length) ps rs
  | _, _ => []

/-- Pieces that all get another spelling. -/
theorem replacements_eq (pos : Nat) : ∀ {ps : List Piece} {rs : List Text},
    replacements pos ps rs = changes pos ps (rs.map some)
  | [], _ => rfl
  | _ :: _, [] => rfl
  | p :: ps, r :: rs => by
    rw [replacements, replacements_eq, List.map_cons, changes, Option.map_some, Option.toList_some,
      List.singleton_append]

theorem chosen_map_some : ∀ {ps : List Piece} {rs : List Text}, rs.length = ps.length →
    chosen ps (rs.map some) = rs
  | [], [], _ => rfl
  | p :: ps, r :: rs, h => by
    have ih : chosen ps (rs.map some) = rs := chosen_map_some (Nat.succ.inj h)
    exact congrArg (r :: ·) ih

/-- **The edits are never refused**, and they change the spellings and nothing else. -/
theorem applyAll_replacements (last : Text) {ps : List Piece} {rs : List Text}
    (h : rs.length = ps.length) :
    Edit.applyAll (fill last ps) (replacements 0 ps rs) = .ok (fill last (refill ps rs)) := by
  have hlen : (rs.map some).length = ps.length := by rw [List.length_map, h]
  rw [replacements_eq, applyAll_changes last hlen, chosen_map_some h]

end Piece

/-! ## One pass -/

/-- The text with every literal written in a base. -/
def cycleText (b : Base) (t : Text) : Except RespellingError Text :=
  match cycleEdits b t with
  | .error e => .error (.numeral e)
  | .ok es => (Edit.applyAll t es).mapError .edit

example : cycleText .hex "10, 0b11".toList = .ok "0xA, 0x3".toList := by decide +kernel

theorem cycleText_of_error {b : Base} {t : Text} {e : NumeralError}
    (h : cycleEdits b t = .error e) : cycleText b t = .error (.numeral e) := by
  rw [cycleText, h]

theorem cycleText_of_ok {b : Base} {t : Text} {es : List Edit} (h : cycleEdits b t = .ok es) :
    cycleText b t = (Edit.applyAll t es).mapError .edit := by
  rw [cycleText, h]

/-- Each spelling of a text is written anew where it stands. -/
theorem cycleEdits_eq (b : Base) (t : Text) :
    cycleEdits b t = allOf ((spellings t).map fun s =>
      (respelling b s.text).map fun r => ⟨s.start, (s.start + s.text.length : Nat), r⟩) := by
  rw [cycleEdits, Literal.readAll_eq, List.map_map]
  congr 2
  funext s
  rw [Function.comp_apply, respelling]
  cases worth s.text with
  | error e => rfl
  | ok n => rfl

namespace Piece

variable {last : Text} {ps : List Piece}

/-- The new spellings of pieces in a base. -/
def respelled (b : Base) (ps : List Piece) : Except NumeralError (List Text) :=
  allOf ((ps.map spelling).map (respelling b))

/-- The edits for the places of pieces are their replacements. -/
theorem allOf_places (b : Base) (pos : Nat) (ps : List Piece) :
    allOf ((places pos ps).map fun s =>
        (respelling b s.text).map fun r =>
          (⟨s.start, (s.start + s.text.length : Nat), r⟩ : Edit)) =
      (respelled b ps).map (replacements pos ps) := by
  induction ps generalizing pos with
  | nil => rfl
  | cons p ps ih =>
    rw [places, List.map_cons, respelled, List.map_cons, List.map_cons]
    cases respelling b p.spelling with
    | error e => rfl
    | ok r =>
      rw [Except.map, allOf, allOf, ih, ← respelled]
      cases respelled b ps <;> rfl

theorem length_respelled {b : Base} {rs : List Text} (h : respelled b ps = .ok rs) :
    rs.length = ps.length := by
  simpa using (congrArg List.length (eq_map_ok_of_allOf h)).symm

/-- **A pass over spaced pieces** writes their numerals anew and keeps their gaps. -/
theorem cycleText_fill (h : Spaced last ps) (b : Base) :
    cycleText b (fill last ps) =
      ((respelled b ps).map fun rs => fill last (refill ps rs)).mapError .numeral := by
  rw [cycleText, cycleEdits_eq, spellings_fill h, allOf_places]
  cases hrs : respelled b ps with
  | error e => rfl
  | ok rs =>
    show (Edit.applyAll (fill last ps) (replacements 0 ps rs)).mapError RespellingError.edit = _
    rw [applyAll_replacements last (length_respelled hrs)]
    rfl

/-- What a pass leaves behind are spaced pieces again. -/
theorem Spaced.respelled {b : Base} {rs : List Text} (h : Spaced last ps)
    (hrs : Piece.respelled b ps = .ok rs) : Spaced last (Piece.refill ps rs) := by
  refine h.refill (length_respelled hrs) fun r hr => ?_
  obtain ⟨s, -, hs⟩ := Numeral.exists_of_mem_respelled (eq_map_ok_of_allOf hrs) hr
  exact Numeral.isNumeral_respelling hs

/-- **Two passes are as good as the second alone.** -/
theorem cycleText_refill {b : Base} {rs : List Text} (h : Spaced last ps)
    (hrs : respelled b ps = .ok rs) (b' : Base) :
    cycleText b' (fill last (refill ps rs)) = cycleText b' (fill last ps) := by
  have hlen := length_respelled hrs
  have hsame : respelled b' (refill ps rs) = respelled b' ps := by
    rw [respelled, map_spelling_refill hlen, Numeral.map_respelling b' (eq_map_ok_of_allOf hrs)]
    rfl
  rw [cycleText_fill (h.respelled hrs), cycleText_fill h, hsame]
  congr 2
  funext rs'
  rw [refill_refill rs' hlen]

/-- The literals of pieces keep their values in a pass and take the spelling of the base. -/
theorem scan_refill {b : Base} {rs : List Text} (h : Spaced last ps)
    (hrs : respelled b ps = .ok rs) :
    ∃ ls ls', scan (fill last ps) = .ok ls ∧ scan (fill last (refill ps rs)) = .ok ls' ∧
      ls'.map Literal.value = ls.map Literal.value ∧
      ∀ l ∈ ls', Numeral.write b l.value = .ok l.spelling := by
  have hmap := eq_map_ok_of_allOf hrs
  have htexts : (spellings (fill last ps)).map Spelling.text = ps.map spelling := by
    rw [spellings_fill h, map_text_places]
  have htexts' : (spellings (fill last (refill ps rs))).map Spelling.text = rs := by
    rw [spellings_fill (h.respelled hrs), map_text_places, map_spelling_refill (length_respelled hrs)]
  obtain ⟨ns, hold, hnew⟩ := Numeral.exists_worths hmap
  obtain ⟨ls, hls, hvalues⟩ := Literal.exists_scan (htexts ▸ hold)
  obtain ⟨ls', hls', hvalues'⟩ := Literal.exists_scan (htexts'.symm ▸ hnew)
  refine ⟨ls, ls', hls, hls', hvalues'.trans hvalues.symm, fun l hl => ?_⟩
  obtain ⟨hplace, hworth⟩ := Literal.mem_of_scan hls' hl
  have hmem : l.spelling ∈ rs := htexts' ▸ List.mem_map_of_mem (f := Spelling.text) hplace
  obtain ⟨s, -, hs⟩ := Numeral.exists_of_mem_respelled hmap hmem
  obtain ⟨n, hn, hwrite⟩ := Numeral.worth_of_respelling hs
  rw [Numeral.worth_respelling hs, hn, Except.ok.injEq] at hworth
  rwa [← hworth]

end Piece

/-! ## Passes over delimited texts -/

/-- A pass over a delimited text is a pass over pieces. -/
theorem exists_pieces_of_cycleText {b : Base} {t u : Text} (ht : Delimited t)
    (h : cycleText b t = .ok u) :
    ∃ last ps rs, t = Piece.fill last ps ∧ Piece.Spaced last ps ∧
      Piece.respelled b ps = .ok rs ∧ u = Piece.fill last (Piece.refill ps rs) := by
  obtain ⟨ps, last, rfl, hps⟩ := Piece.exists_spaced ht
  rw [Piece.cycleText_fill hps] at h
  cases hrs : Piece.respelled b ps with
  | error e => rw [hrs] at h; cases h
  | ok rs =>
    rw [hrs] at h
    exact ⟨last, ps, rs, rfl, hps, hrs, (Except.ok.inj h).symm⟩

/-- **A pass leaves no trace** for the passes after it, and what it leaves is delimited again. -/
theorem cycleText_of_cycleText {b : Base} {t u : Text} (ht : Delimited t)
    (h : cycleText b t = .ok u) : Delimited u ∧ ∀ b', cycleText b' u = cycleText b' t := by
  obtain ⟨last, ps, rs, rfl, hps, hrs, rfl⟩ := exists_pieces_of_cycleText ht h
  exact ⟨Piece.delimited_fill (hps.respelled hrs), Piece.cycleText_refill hps hrs⟩

/-- The edits of a pass over a delimited text are never refused. -/
theorem exists_applyAll_of_cycleEdits {b : Base} {t : Text} {es : List Edit} (ht : Delimited t)
    (h : cycleEdits b t = .ok es) : ∃ u, Edit.applyAll t es = .ok u ∧ cycleText b t = .ok u := by
  have hpass := cycleText_of_ok h
  cases hu : Edit.applyAll t es with
  | ok u => exact ⟨u, rfl, by rw [hpass, hu]; rfl⟩
  | error e =>
    -- on pieces a pass fails for the sake of a numeral only
    obtain ⟨ps, last, rfl, hps⟩ := Piece.exists_spaced ht
    rw [hu, Piece.cycleText_fill hps] at hpass
    cases hrs : Piece.respelled b ps with
    | error e' => rw [hrs] at hpass; cases hpass
    | ok rs => rw [hrs] at hpass; cases hpass

/-! ## Passes in a session -/

namespace Document

theorem text_setText (d : Document) (t : Text) : (d.setText t).state.text = t := by
  unfold setText
  dsimp only
  split <;> exact Text.unlines_lines t

theorem text_applyEdits {d : Document} {es : List Edit} {u : Text}
    (h : Edit.applyAll d.text es = .ok u) : (d.applyEdits es).state.text = u := by
  cases es with
  | nil => exact Except.ok.inj h
  | cons e es =>
    have htext := d.text_setText u
    unfold applyEdits Attempt.andThen
    dsimp only
    rw [h]
    dsimp only
    cases (d.setText u).result <;> exact htext

theorem applyEdits_failed {d : Document} {es : List Edit} {e : EditError}
    (h : Edit.applyAll d.text es = .error e) : d.applyEdits es = .failed d (.edit e) := by
  cases es with
  | nil => cases h
  | cons e' es =>
    unfold applyEdits
    dsimp only
    rw [h]

end Document

namespace Session

variable {s : Session} {d : Document}

/-- Carrying a request out is applying the edits of its policy. -/
theorem replace_of_policy {r : Request} {p : Policy}
    (hp : r.policy d.text (some d.cursor) = .ok (some p)) :
    s.replace d r = applyMade d ((p.edits s.guard d.text).mapError .numeral) := by
  rw [replace, requestEdits, hp]
  dsimp only
  cases p.edits s.guard d.text <;> rfl

/-- A pass that can be made changes the text of the document to what it gives. -/
theorem text_respellAll {u : Text} (h : cycleText s.format d.text = .ok u) :
    (s.respellAll d).state.text = u := by
  unfold respellAll applyMade
  cases hes : cycleEdits s.format d.text with
  | error e => rw [cycleText_of_error hes] at h; cases h
  | ok es =>
    rw [cycleText_of_ok hes] at h
    cases hu : Edit.applyAll d.text es with
    | error e => rw [hu] at h; cases h
    | ok v =>
      rw [hu] at h
      obtain rfl : v = u := Except.ok.inj h
      have htext := Document.text_applyEdits hu
      rw [Except.mapError]
      dsimp only
      split <;> (rename_i hd; rwa [hd] at htext)

/-- A pass that cannot be made fails and leaves the document as it is. -/
theorem respellAll_failed {e : RespellingError} (h : cycleText s.format d.text = .error e) :
    ∃ f, s.respellAll d = .failed d f := by
  unfold respellAll applyMade
  cases hes : cycleEdits s.format d.text with
  | error e => exact ⟨_, rfl⟩
  | ok es =>
    rw [cycleText_of_ok hes] at h
    cases hu : Edit.applyAll d.text es with
    | error e =>
      rw [Except.mapError]
      dsimp only
      rw [Document.applyEdits_failed hu]
      exact ⟨_, rfl⟩
    | ok v => rw [hu] at h; cases h

/-- A session and its document after the next format has been taken. -/
def toggled (p : Session × Document) : Session × Document := (p.1.toggleFormat p.2).state

/-- Whether a document is as good as a text, delimited, for every pass to come. -/
def StandsFor (t : Text) (d : Document) : Prop :=
  Delimited d.text ∧ ∀ b, cycleText b d.text = cycleText b t

/-- Taking the next format keeps what every pass to come would give. -/
theorem StandsFor.toggled {t : Text} {p : Session × Document} (h : StandsFor t p.2) :
    StandsFor t (toggled p).2 := by
  obtain ⟨hdel, hpass⟩ := h
  show StandsFor t (p.1.advance.respellAll p.2).state
  cases hu : cycleText p.1.advance.format p.2.text with
  | error e =>
    -- the step in the cycle is taken all the same, but the document stays
    obtain ⟨f, hf⟩ := respellAll_failed hu
    rw [hf]
    exact ⟨hdel, hpass⟩
  | ok u =>
    obtain ⟨hdel', hpass'⟩ := cycleText_of_cycleText hdel hu
    rw [StandsFor, text_respellAll hu]
    exact ⟨hdel', fun b => (hpass' b).trans (hpass b)⟩

theorem standsFor_iterate {t : Text} {p : Session × Document} (h : StandsFor t p.2) (n : Nat) :
    StandsFor t (Session.toggled^[n] p).2 := by
  induction n with
  | zero => exact h
  | succ n ih =>
    rw [Function.iterate_succ_apply']
    exact ih.toggled

theorem format_iterate (p : Session × Document) (n : Nat) :
    (Session.toggled^[n] p).1.format = Base.next^[n] p.1.format := by
  induction n with
  | zero => rfl
  | succ n ih =>
    rw [Function.iterate_succ_apply', Function.iterate_succ_apply', ← ih]
    rfl

end Session

/-- **Cycling is path independent.**  On a delimited text the edits of a pass that can be made are
    never refused; they give a delimited text with the same values, each spelled in the base; and
    every further pass gives what it gives from the first text.  So whenever a session has taken one
    format after another, its document has the text that one pass of the first text into the last
    format gives, if that pass can be made. -/
theorem cycling_path_independent (t : Text) (ht : Delimited t) :
    (∀ (b : Base) (es : List Edit), cycleEdits b t = .ok es →
      ∃ u, Edit.applyAll t es = .ok u ∧ Delimited u ∧
        (∃ ls ls', scan t = .ok ls ∧ scan u = .ok ls' ∧
          ls'.map Literal.value = ls.map Literal.value ∧
          ∀ l ∈ ls', Numeral.write b l.value = .ok l.spelling) ∧
        ∀ b', cycleText b' u = cycleText b' t) ∧
    ∀ (s : Session) (d : Document) (n : Nat), d.text = t →
      let p := Session.toggled^[n] (s, d)
      let a := p.1.toggleFormat p.2
      a.state.1.format = Base.next^[n + 1] s.format ∧
      (∀ k, a.result = .ok k → cycleText a.state.1.format t = .ok a.state.2.text) ∧
      ∀ u, cycleText a.state.1.format t = .ok u → a.state.2.text = u := by
  constructor
  · intro b es hes
    obtain ⟨u, happly, hpass⟩ := exists_applyAll_of_cycleEdits ht hes
    obtain ⟨hdel, hlater⟩ := cycleText_of_cycleText ht hpass
    obtain ⟨last, ps, rs, rfl, hps, hrs, rfl⟩ := exists_pieces_of_cycleText ht hpass
    exact ⟨_, happly, hdel, Piece.scan_refill hps hrs, hlater⟩
  · rintro s d n rfl p
    -- the document before the last step stands for the first text, so the last pass is one from it
    obtain ⟨-, hpass⟩ : Session.StandsFor d.text p.2 :=
      Session.standsFor_iterate ⟨ht, fun _ => rfl⟩ n
    have hformat : p.1.format = Base.next^[n] s.format := Session.format_iterate (s, d) n
    refine ⟨?_, ?_⟩
    · rw [Function.iterate_succ_apply', ← hformat]
      rfl
    · show (∀ k, (p.1.advance.respellAll p.2).result = .ok k →
          cycleText p.1.advance.format d.text = .ok (p.1.advance.respellAll p.2).state.text) ∧
        ∀ u, cycleText p.1.advance.format d.text = .ok u →
          (p.1.advance.respellAll p.2).state.text = u
      rw [← hpass]
      cases hu : cycleText p.1.advance.format p.2.text with
      | error e =>
        obtain ⟨f, hf⟩ := Session.respellAll_failed hu
        rw [hf]
        constructor
        · intro k hk
          cases hk
        · intro u hu
          cases hu
      | ok u =>
        rw [Session.text_respellAll hu]
        exact ⟨fun _ _ => rfl, fun v hv => Except.ok.inj hv⟩

/-- A pass into binary and one into octal behind it, and two steps of a session, which starts in
    hex and ends in octal. -/
theorem cycling_path_independent_two_numbers :
    let t := "10, 0xF".toList
    let p := Session.toggled (.start Settings.default none, .ofText t)
    Delimited t ∧
      (∃ u, Edit.applyAll t [⟨0, 2, "0b1010".toList⟩, ⟨4, 7, "0b1111".toList⟩] = .ok u ∧
        Delimited u ∧ cycleText .octal u = .ok "0o12, 0o17".toList) ∧
      (p.1.toggleFormat p.2).state.2.text = "0o12, 0o17".toList := by
  intro t p
  have hdel : Delimited t := by decide +kernel
  have hedits : cycleEdits .binary t =
      .ok [⟨0, 2, "0b1010".toList⟩, ⟨4, 7, "0b1111".toList⟩] := by decide +kernel
  have hoctal : cycleText .octal t = .ok "0o12, 0o17".toList := by decide +kernel
  obtain ⟨hpass, hsteps⟩ := cycling_path_independent t hdel
  obtain ⟨u, happly, hdel', -, hlater⟩ := hpass .binary _ hedits
  obtain ⟨-, -, htext⟩ := hsteps (.start Settings.default none) (.ofText t) 1 (Document.text_ofText t)
  exact ⟨hdel, ⟨u, happly, hdel', (hlater .octal).trans hoctal⟩, htext _ hoctal⟩

end Respell
