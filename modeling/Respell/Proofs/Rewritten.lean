/-
  Texts in which some literals are written anew.

  A conversion may be about all literals of a text, about those that a policy chooses under a guard, or
  about the first of one spelling.  Each time the new text has the pieces of the old one, and each
  spelling is written anew or is what it was (`Rewritten`).

  1. **The three conversions** (`rewritten_of_cycleText`, `rewritten_of_policy`, `rewritten_of_first`).
     Their edits are changes of pieces.  That the first literal of a spelling is the only one that changes
     rests on the order of the spellings: no other stands in its place.

  2. **Bytes** (`Rewritten.bytes`).  The bytes of a file that is rewritten are the old ones but for the
     spellings, and but for parts that are no text.
-/
import Respell.Proofs.Grammar
import Respell.Proofs.Selection
import Respell.Proofs.Woven

namespace Respell

open Literal (Spelling spellings)
open Numeral (IsNumeral worth respelling)

/-- What becomes of a spelling: a new one if it is converted, and itself if not. -/
def Becomes (converts : Spelling → Prop) (new : Text → Text → Prop) (s : Spelling) (r : Text) : Prop :=
  (converts s → new s.text r) ∧ (¬ converts s → r = s.text)

/-- Whether a text is made of the pieces of another one, of which some spellings are new. -/
def Rewritten (converts : Spelling → Prop) (new : Text → Text → Prop) (t u : Text) : Prop :=
  ∃ ps last rs, t = Piece.fill last ps ∧ spellings t = Piece.places 0 ps ∧
    u = Piece.fill last (Piece.refill ps rs) ∧
    List.Forall₂ (Becomes converts new) (Piece.places 0 ps) rs

theorem Rewritten.imp {converts converts' : Spelling → Prop} {new new' : Text → Text → Prop}
    {t u : Text} (hconverts : ∀ s, converts s ↔ converts' s) (hnew : ∀ s r, new s r → new' s r)
    (h : Rewritten converts new t u) : Rewritten converts' new' t u := by
  obtain ⟨ps, last, rs, ht, hplaces, hu, hrs⟩ := h
  refine ⟨ps, last, rs, ht, hplaces, hu, hrs.imp ?_⟩
  rintro s r ⟨hconverted, hkept⟩
  refine ⟨fun h => hnew _ _ (hconverted ((hconverts s).2 h)), fun h => hkept fun hold => ?_⟩
  exact h ((hconverts s).1 hold)

/-! ## The text of some edits -/

/-- The text that edits make of a text, if they could be made. -/
def madeText (made : Except NumeralError (List Edit)) (t : Text) : Except RespellingError Text :=
  match made with
  | .error e => .error (.numeral e)
  | .ok es => (Edit.applyAll t es).mapError .edit

theorem exists_of_madeText {made : Except NumeralError (List Edit)} {t u : Text}
    (h : madeText made t = .ok u) : ∃ es, made = .ok es ∧ Edit.applyAll t es = .ok u := by
  cases made with
  | error e => cases h
  | ok es =>
    refine ⟨es, rfl, ?_⟩
    rw [madeText] at h
    cases hu : Edit.applyAll t es with
    | error e => rw [hu] at h; cases h
    | ok v => rw [hu] at h; exact congrArg Except.ok (Except.ok.inj h)

/-- Edits that are good if they can be made fail only for a number. -/
theorem error_of_madeText {made : Except NumeralError (List Edit)} {t : Text} {e : RespellingError}
    (hgood : ∀ es, made = .ok es → ∃ u, Edit.applyAll t es = .ok u) (h : madeText made t = .error e) :
    ∃ n, e = .numeral n := by
  cases made with
  | error n => exact ⟨n, (Except.error.inj h).symm⟩
  | ok es =>
    obtain ⟨u, hu⟩ := hgood es rfl
    rw [madeText, hu] at h
    cases h

theorem cycleText_eq (b : Base) (t : Text) : cycleText b t = madeText (cycleEdits b t) t := rfl

/-- The text that the edits of a policy make. -/
def Policy.respelledText (p : Policy) (g : Guard) (t : Text) : Except RespellingError Text :=
  madeText (p.edits g t) t

namespace Piece

variable {converts : Spelling → Prop} {new : Text → Text → Prop} {last : Text} {ps : List Piece}
  {pos : Nat}

/-- Chosen spellings are what becomes of the places, if each choice is. -/
theorem forall₂_chosen_of_places : ∀ {ps : List Piece} {rs : List (Option Text)} {pos : Nat},
    List.Forall₂ (fun s r? => Becomes converts new s (r?.getD s.text)) (places pos ps) rs →
    List.Forall₂ (Becomes converts new) (places pos ps) (chosen ps rs)
  | [], [], _, _ => .nil
  | p :: ps, r? :: rs, _, h => by
    obtain ⟨hr, hrs⟩ := List.forall₂_cons.1 h
    exact .cons hr (forall₂_chosen_of_places hrs)

/-- **Choices make a rewritten text.** -/
theorem rewritten_of_choices {rs : List (Option Text)} {u : Text} (h : Laid false last ps)
    (hrs : List.Forall₂ (fun s r? => Becomes converts new s (r?.getD s.text)) (places 0 ps) rs)
    (hu : Edit.applyAll (fill last ps) (changes 0 ps rs) = .ok u) :
    Rewritten converts new (fill last ps) u := by
  have hlen : rs.length = ps.length := by rw [← hrs.length_eq, length_places]
  rw [applyAll_changes last hlen] at hu
  exact ⟨ps, last, chosen ps rs, rfl, h.spellingsFrom 0, (Except.ok.inj hu).symm,
    forall₂_chosen_of_places hrs⟩

end Piece

/-! ## All literals -/

theorem rewritten_of_cycleText {b : Base} {t u : Text} (h : cycleText b t = .ok u) :
    Rewritten (fun _ => True) (fun s r => respelling b s = .ok r) t u := by
  obtain ⟨es, hes, hu⟩ := exists_of_madeText h
  obtain ⟨ps, last, rfl, hps⟩ := Piece.exists_laid false 0 t
  have hplaces : spellings (Piece.fill last ps) = Piece.places 0 ps := hps.spellingsFrom 0
  rw [cycleEdits_eq, hplaces, Piece.allOf_places] at hes
  obtain ⟨rs, hrs, rfl⟩ := exists_of_map_eq_ok hes
  rw [Piece.replacements_eq] at hu
  refine Piece.rewritten_of_choices hps ?_ hu
  have hmap := eq_map_ok_of_allOf hrs
  rw [← Piece.map_text_places 0, List.map_map, ← List.forall₂_eq_eq_eq, List.forall₂_map_left_iff,
    List.forall₂_map_right_iff] at hmap
  rw [List.forall₂_map_right_iff]
  exact hmap.imp fun s r hr => ⟨fun _ => hr, fun hnot => absurd trivial hnot⟩

/-! ## The literals that a policy chooses -/

/-- Whether a policy under a guard changes a spelling of a text. -/
def Policy.Chooses (p : Policy) (g : Guard) (t : Text) (s : Spelling) : Prop :=
  ∃ n, worth s.text = .ok n ∧ p.isAbout ⟨s.text, s.start, n⟩ = true ∧ g.allows t s.start = true

theorem rewritten_of_policy {p : Policy} (hp : p.scope = .all) {g : Guard} {t u : Text}
    (h : p.respelledText g t = .ok u) :
    Rewritten (p.Chooses g t) (fun s r => respelling p.base s = .ok r) t u := by
  obtain ⟨es, hes, hu⟩ := exists_of_madeText h
  obtain ⟨ps, last, rfl, hps⟩ := Piece.exists_laid false 0 t
  obtain ⟨rs, hrs, rfl⟩ := Policy.exists_choices hp (hps.spellingsFrom 0) hes
  refine Piece.rewritten_of_choices hps ?_ hu
  have hmap := eq_map_ok_of_allOf hrs
  rw [← List.forall₂_eq_eq_eq, List.forall₂_map_left_iff, List.forall₂_map_right_iff] at hmap
  refine hmap.imp fun s r? hr => ?_
  obtain ⟨n, hn, hchoice⟩ := exists_of_bind_eq_ok hr
  unfold Policy.choice at hchoice
  split at hchoice
  · rename_i hchosen
    rw [Bool.and_eq_true] at hchosen
    obtain ⟨r, hwrite, rfl⟩ := exists_of_map_eq_ok hchoice
    refine ⟨fun _ => ?_, fun hnot => absurd ⟨n, hn, hchosen⟩ hnot⟩
    show (worth s.text).bind (fun n => Numeral.write p.base n) = .ok r
    rw [hn]
    exact hwrite
  · rename_i hnot
    obtain rfl := Except.ok.inj hchoice
    refine ⟨?_, fun _ => rfl⟩
    rintro ⟨n', hn', hchosen⟩
    obtain rfl : n = n' := Except.ok.inj (hn.symm.trans hn')
    exact absurd (Bool.and_eq_true_iff.2 hchosen) hnot

/-! ## The first literal of a spelling -/

/-- The first literal of a spelling is the first place of it. -/
theorem Literal.find?_of_firstSpelled {t s : Text} {l? : Option Literal}
    (h : firstSpelled s (readAll t) = .ok l?) :
    (spellings t).find? (·.text = s) = l?.map fun l => ⟨l.start, l.spelling⟩ := by
  rw [readAll_eq] at h
  generalize spellings t = ss at h ⊢
  induction ss with
  | nil =>
    obtain rfl := Except.ok.inj h
    rfl
  | cons m ss ih =>
    rw [List.map_cons] at h
    cases hm : worth m.text with
    | error e =>
      rw [hm] at h
      cases h
    | ok n =>
      rw [hm] at h
      change firstSpelled s (.ok ⟨m.text, m.start, n⟩ :: _) = _ at h
      rw [firstSpelled] at h
      dsimp only at h
      rw [List.find?_cons]
      by_cases hs : m.text = s
      · rw [if_pos hs] at h
        obtain rfl := Except.ok.inj h
        rw [decide_eq_true hs]
        rfl
      · rw [if_neg hs] at h
        rw [decide_eq_false hs]
        exact ih h

namespace Piece

/-- The choice of another spelling for the first piece of a spelling, and of none for the others. -/
def firstChoice (s r : Text) : List Piece → List (Option Text)
  | [] => []
  | p :: ps => if p.spelling = s then some r :: ps.map fun _ => none else none :: firstChoice s r ps

theorem changes_none (pos : Nat) (ps : List Piece) : changes pos ps (ps.map fun _ => none) = [] := by
  induction ps generalizing pos with
  | nil => rfl
  | cons p ps ih => exact ih _

/-- The changes of that choice are one edit, if there is such a piece. -/
theorem changes_firstChoice (s r : Text) (pos : Nat) (ps : List Piece) :
    changes pos ps (firstChoice s r ps) = (((places pos ps).find? (·.text = s)).map fun m =>
      (⟨m.start, (m.start + m.text.length : Nat), r⟩ : Edit)).toList := by
  induction ps generalizing pos with
  | nil => rfl
  | cons p ps ih =>
    rw [firstChoice, places, List.find?_cons]
    by_cases hs : p.spelling = s
    · rw [if_pos hs, decide_eq_true hs, changes, changes_none]
      rfl
    · rw [if_neg hs, decide_eq_false hs, changes, ih]
      rfl

/-- Only the first piece of a spelling gets another one. -/
theorem forall₂_firstChoice {s r : Text} {new : Text → Text → Prop} (hnew : new s r) (pos : Nat)
    {ps : List Piece} (hnodup : (places pos ps).Nodup) :
    List.Forall₂ (fun m r? =>
        Becomes (fun m => (places pos ps).find? (·.text = s) = some m) new m (r?.getD m.text))
      (places pos ps) (firstChoice s r ps) := by
  induction ps generalizing pos with
  | nil => exact .nil
  | cons p ps ih =>
    rw [places] at hnodup ⊢
    obtain ⟨hfresh, hnodup⟩ := List.nodup_cons.1 hnodup
    rw [firstChoice, List.find?_cons]
    by_cases hs : p.spelling = s
    · rw [if_pos hs, decide_eq_true hs]
      refine .cons ⟨fun _ => ?_, fun hnot => absurd rfl hnot⟩ ?_
      · subst hs
        exact hnew
      · rw [List.forall₂_map_right_iff]
        refine List.forall₂_iff_zip.2 ⟨length_places _ ps, fun {m q} hmem => ⟨fun hfound => ?_, ?_⟩⟩
        · obtain rfl : _ = m := Option.some.inj hfound
          exact absurd (List.of_mem_zip hmem).1 hfresh
        · exact fun _ => rfl
    · rw [if_neg hs, decide_eq_false hs]
      refine .cons ⟨fun hfound => ?_, fun _ => rfl⟩ (ih _ hnodup)
      exact absurd (List.mem_of_find?_eq_some hfound) hfresh

end Piece

theorem nodup_spellings (t : Text) : (spellings t).Nodup := by
  refine List.Pairwise.imp_of_mem (fun {m m'} hm _ hle => ?_) (Literal.pairwise_spellingsFrom false 0 t)
  rintro rfl
  obtain ⟨-, -, -, -, hne, -⟩ := Literal.exists_around_of_mem hm
  have hpos := List.length_pos_iff.2 hne
  omega

/-- **The first literal of a spelling** is written anew, and no other. -/
theorem rewritten_of_first {t s r u : Text} {l : Literal} {new : Text → Text → Prop} (hnew : new s r)
    (hl : Literal.firstSpelled s (Literal.readAll t) = .ok (some l))
    (hu : Edit.applyAll t [⟨l.start, l.stop, r⟩] = .ok u) :
    Rewritten (fun m => (spellings t).find? (·.text = s) = some m) new t u := by
  have hfind := Literal.find?_of_firstSpelled hl
  have hnodup := nodup_spellings t
  obtain ⟨ps, last, rfl, hps⟩ := Piece.exists_laid false 0 t
  have hplaces : spellings (Piece.fill last ps) = Piece.places 0 ps := hps.spellingsFrom 0
  rw [hplaces] at hfind hnodup ⊢
  refine Piece.rewritten_of_choices hps (Piece.forall₂_firstChoice hnew 0 hnodup) ?_
  rw [Piece.changes_firstChoice, hfind]
  exact hu

/-- A text without a literal of the spelling stays. -/
theorem rewritten_of_none {t s : Text} {new : Text → Text → Prop}
    (h : Literal.firstSpelled s (Literal.readAll t) = .ok none) :
    Rewritten (fun m => (spellings t).find? (·.text = s) = some m) new t t := by
  have hfind := Literal.find?_of_firstSpelled h
  obtain ⟨ps, last, rfl, hps⟩ := Piece.exists_laid false 0 t
  rw [hfind]
  refine ⟨ps, last, ps.map Piece.spelling, rfl, hps.spellingsFrom 0, ?_, ?_⟩
  · rw [Piece.refill_map_spelling]
  · rw [← Piece.map_text_places 0, List.forall₂_map_right_iff, List.forall₂_same]
    exact fun m _ => ⟨nofun, fun _ => rfl⟩

/-! ## Bytes -/

/-- Whether bytes are those of a file of which some literals are new: between the spellings stand the
    bytes that stood there, with parts that are no text mended, and the new spellings are ASCII. -/
def RewrittenBytes (converts : Spelling → Prop) (new : Text → Text → Prop) (old bytes : List UInt8) :
    Prop :=
  ∃ ps last gaps rs, Utf8.decodeLossy old = Piece.fill last ps ∧
    spellings (Utf8.decodeLossy old) = Piece.places 0 ps ∧
    gaps.map Utf8.decodeLossy = ps.map Piece.gap ++ [last] ∧
    old = Utf8.woven gaps (ps.map Piece.spelling) ∧ bytes = Utf8.woven (gaps.map Utf8.mended) rs ∧
    List.Forall₂ (Becomes converts new) (Piece.places 0 ps) rs ∧
    (∀ r ∈ rs, ∀ c ∈ r, c.toNat < 128) ∧ ((∃ t, old = Utf8.encode t) → gaps.map Utf8.mended = gaps)

theorem lt_of_isNumeral {s : Text} (h : IsNumeral s) : ∀ c ∈ s, c.toNat < 128 := by
  intro c hc
  have hbelow : ∀ n : UInt32, n.toNat < 128 → c.val ≤ n → c.toNat < 128 :=
    fun n hn hle => Nat.lt_of_le_of_lt (UInt32.le_iff_toNat_le.1 hle) hn
  have hword := Literal.isWordChar_of_mem_numeral h c hc
  rcases (Bool.or_eq_true _ _).mp hword with halnum | hunder
  · rcases (Bool.or_eq_true _ _).mp halnum with halpha | hdigit
    · rcases (Bool.or_eq_true _ _).mp halpha with hupper | hlower
      · exact hbelow 'Z'.val (by decide) (of_decide_eq_true hupper).2
      · exact hbelow 'z'.val (by decide) (of_decide_eq_true ((Bool.and_eq_true _ _).mp hlower).2)
    · exact hbelow '9'.val (by decide) (of_decide_eq_true ((Bool.and_eq_true _ _).mp hdigit).2)
  · obtain rfl := of_decide_eq_true hunder
    decide

/-- **A rewritten text makes rewritten bytes.** -/
theorem Rewritten.bytes {converts : Spelling → Prop} {new : Text → Text → Prop} {old : List UInt8}
    {u : Text} (hnew : ∀ s r, new s r → IsNumeral r)
    (h : Rewritten converts new (Utf8.decodeLossy old) u) :
    RewrittenBytes converts new old (Utf8.encode u) := by
  obtain ⟨ps, last, rs, hold, hplaces, rfl, hrs⟩ := h
  have hnumerals : ∀ s ∈ ps.map Piece.spelling, IsNumeral s := by
    intro s hs
    rw [← Piece.map_text_places 0, ← hplaces] at hs
    obtain ⟨m, hm, rfl⟩ := List.mem_map.1 hs
    exact Literal.isNumeral_of_mem_spellingsFrom hm
  have hplain : ∀ s ∈ ps.map Piece.spelling, '\ufffd' ∉ s := by
    intro s hs hmem
    exact absurd (lt_of_isNumeral (hnumerals s hs) _ hmem) (by decide)
  have hlen : rs.length = ps.length := by rw [← hrs.length_eq, Piece.length_places]
  obtain ⟨gaps, hgaps, hbytes, htext⟩ := Piece.exists_woven hold hplain
  refine ⟨ps, last, gaps, rs, hold, hplaces, hgaps, hbytes, Piece.encode_fill_refill hgaps hlen, hrs,
    ?_, htext⟩
  have hspelled : ∀ m ∈ Piece.places 0 ps, IsNumeral m.text := fun m hm =>
    hnumerals m.text (Piece.map_text_places 0 ps ▸ List.mem_map_of_mem hm)
  have hall : List.Forall₂ (fun r (_ : Spelling) => IsNumeral r ∧ True) rs (Piece.places 0 ps) := by
    refine List.Forall₂.flip <| ((List.forall₂_and_left _ _).2 ⟨hspelled, hrs⟩).imp ?_
    rintro m r ⟨hm, hconverted, hkept⟩
    refine ⟨?_, trivial⟩
    by_cases hconverts : converts m
    · exact hnew m.text r (hconverted hconverts)
    · rw [hkept hconverts]
      exact hm
  exact fun r hr => lt_of_isNumeral (((List.forall₂_and_left _ _).1 hall).1 r hr)

end Respell
