/-
  How often and in which order bulk respellings are made.

  A bulk respelling looks at the text around a literal only through its guard, and a guard with plain
  keywords sees nothing beyond the gap in front of the literal.  So what becomes of a literal is a
  matter of its spelling and this gap alone, and gaps stay.

  1. **One pass** (`Piece.choices_eq`, `Policy.respellText_fill`) turns each piece of a delimited text
     by itself.  The induction carries the text in front, which is empty or ends in a numeral.

  2. **One piece** (`Policy.turned`).  A piece that has been turned is turned no more by the same policy
     (`turned_turned`), and of two policies for different values only one ever turns it
     (`turned_comm`).

  3. **Two passes** over a text are two turns of each piece (`turned_refill`, `turned_refill_comm`).
-/
import Respell.Proofs.BulkRespelling
import Respell.Proofs.LookBehind

namespace Respell

open Literal (Spelling spellings Delimited beginsWord endsWord)
open Numeral (IsNumeral worth)

/-- Results for the members of a list are values one for one. -/
theorem allOf_map_eq_ok_iff {ε α β : Type} {f : α → Except ε β} {as : List α} {bs : List β} :
    allOf (as.map f) = .ok bs ↔ List.Forall₂ (fun a b => f a = .ok b) as bs := by
  constructor
  · intro h
    have hmap := eq_map_ok_of_allOf h
    rwa [← List.forall₂_eq_eq_eq, List.forall₂_map_left_iff, List.forall₂_map_right_iff] at hmap
  · intro h
    have hmap : as.map f = bs.map .ok := by
      rwa [← List.forall₂_eq_eq_eq, List.forall₂_map_left_iff, List.forall₂_map_right_iff]
    rw [hmap, allOf_map_ok]

namespace Policy

variable {p q : Policy} {g : Guard}

/-- The text that a policy under a guard makes of a text. -/
def respellText (p : Policy) (g : Guard) (t : Text) : Except RespellingError Text :=
  match p.edits g t with
  | .error e => .error (.numeral e)
  | .ok es => (Edit.applyAll t es).mapError .edit

/-! ## One piece -/

/-- What a policy makes of a piece that stands at the start of a text. -/
def turned (p : Policy) (g : Guard) (a : Piece) : Except NumeralError Text :=
  ((worth a.spelling).bind fun n => p.choice g a.gap ⟨a.spelling, a.gap.length, n⟩).map
    (·.getD a.spelling)

theorem turned_eq_ok_iff {a : Piece} {s : Text} : p.turned g a = .ok s ↔
    ∃ n, worth a.spelling = .ok n ∧ p.Makes g a.gap ⟨a.spelling, a.gap.length, n⟩ s := by
  rw [turned]
  cases worth a.spelling with
  | error e =>
    constructor
    · intro h
      cases h
    · rintro ⟨n, hn, -⟩
      cases hn
  | ok n =>
    constructor
    · intro h
      exact ⟨n, rfl, choice_eq_ok_iff.1 h⟩
    · rintro ⟨n', hn, hmakes⟩
      obtain rfl := Except.ok.inj hn
      exact choice_eq_ok_iff.2 hmakes

/-- What is made of a piece is a numeral again, of the same worth. -/
theorem worth_of_turned {a : Piece} {s : Text} (ha : IsNumeral a.spelling) (h : p.turned g a = .ok s) :
    IsNumeral s ∧ worth s = worth a.spelling := by
  obtain ⟨n, hn, hmakes⟩ := turned_eq_ok_iff.1 h
  rw [hn]
  exact worth_of_makes hmakes ha hn

/-- **A piece that has been turned stays** when the same policy turns it again. -/
theorem turned_turned {a : Piece} {s : Text} (ha : IsNumeral a.spelling) (h : p.turned g a = .ok s) :
    p.turned g ⟨a.gap, s⟩ = .ok s := by
  obtain ⟨n, hn, hmakes⟩ := turned_eq_ok_iff.1 h
  obtain ⟨-, hworth⟩ := worth_of_makes hmakes ha hn
  refine turned_eq_ok_iff.2 ⟨n, hworth, ?_⟩
  unfold Makes at hmakes ⊢
  split
  · rename_i hchosen
    split at hmakes
    · exact hmakes
    · -- the piece had this spelling before, and it would have been chosen then
      rename_i hkept
      subst hmakes
      exact absurd hchosen hkept
  · rfl

/-- A policy for a value turns a piece that has this value and that the guard allows. -/
theorem turned_of_worth (hp : p.rule = .value) {a : Piece} {n : Nat} (hn : worth a.spelling = .ok n) :
    p.turned g a = if n = p.anchor.value ∧ g.allows a.gap a.gap.length then Numeral.write p.base n
      else .ok a.spelling := by
  rw [turned, hn]
  show (p.choice g a.gap ⟨a.spelling, a.gap.length, n⟩).map _ = _
  rw [choice, isAbout, hp]
  dsimp only
  simp only [Bool.and_eq_true, decide_eq_true_eq]
  split
  · cases Numeral.write p.base n <;> rfl
  · rfl

/-- **Of two policies for different values only one ever turns a piece**, so either may go first. -/
theorem turned_comm (hp : p.rule = .value) (hq : q.rule = .value)
    (hne : p.anchor.value ≠ q.anchor.value) {a : Piece} (ha : IsNumeral a.spelling) {s r : Text}
    (hs : p.turned g a = .ok s) (hr : q.turned g ⟨a.gap, s⟩ = .ok r) :
    ∃ s', q.turned g a = .ok s' ∧ p.turned g ⟨a.gap, s'⟩ = .ok r := by
  obtain ⟨n, hn, -⟩ := turned_eq_ok_iff.1 hs
  obtain ⟨hnum, hworth⟩ := worth_of_turned ha hs
  rw [hn] at hworth
  by_cases hvalue : n = p.anchor.value
  · -- the first policy turns the piece, and the second one leaves it alone before and after
    have hother : ¬ (n = q.anchor.value ∧ g.allows a.gap a.gap.length = true) := by
      rintro ⟨hq', -⟩
      exact hne (hvalue.symm.trans hq')
    rw [turned_of_worth hq hworth, if_neg hother] at hr
    obtain rfl := Except.ok.inj hr
    exact ⟨a.spelling, by rw [turned_of_worth hq hn, if_neg hother], hs⟩
  · have hother : ¬ (n = p.anchor.value ∧ g.allows a.gap a.gap.length = true) := fun h => hvalue h.1
    rw [turned_of_worth hp hn, if_neg hother] at hs
    obtain rfl := Except.ok.inj hs
    obtain ⟨-, hworth'⟩ := worth_of_turned ha hr
    refine ⟨r, hr, ?_⟩
    rw [turned_of_worth hp (hworth'.trans hn), if_neg hother]

end Policy

/-! ## One pass -/

namespace Piece

open Guard (Settled)

variable {p : Policy} {g : Guard} {last : Text} {ps : List Piece}

theorem choice_behind (hg : g.Plain) {front : Text} (h : Settled front) {gap : Text}
    (hgap : front = [] ∨ beginsWord gap = false) (rest s : Text) (n : Nat) :
    p.choice g (front ++ gap ++ rest) ⟨s, (front ++ gap).length, n⟩ =
      p.choice g gap ⟨s, gap.length, n⟩ := by
  have hguard := Guard.allows_behind hg h hgap rest
  unfold Policy.choice
  dsimp only
  rw [hguard]
  rfl

/-- Behind a settled text the first gap begins no word, and the text in front of the first spelling ends
    in none. -/
theorem settled_step {a : Piece} {front : Text} (h : Spaced last (a :: ps))
    (hbegins : front = [] ∨ beginsWord (fill last (a :: ps)) = false) :
    (front = [] ∨ beginsWord a.gap = false) ∧ Settled (front ++ a.gap ++ a.spelling) := by
  obtain ⟨⟨-, hopen⟩, hnum, -, -⟩ := h
  have hgap : front = [] ∨ beginsWord a.gap = false := by
    refine hbegins.imp_right fun hbegins => ?_
    cases hgap : a.gap with
    | nil => rfl
    | cons c gap =>
      rw [fill, hgap] at hbegins
      exact hbegins
  refine ⟨hgap, .inr ⟨front ++ a.gap, a.spelling, rfl, ?_, hnum⟩⟩
  rw [Literal.endsWord_append]
  by_cases hnil : a.gap = []
  · -- without a gap the spelling would go on a word
    rcases hbegins with rfl | hbegins
    · exact hopen
    · rw [fill, hnil, List.nil_append, Literal.beginsWord_numeral hnum] at hbegins
      cases hbegins
  · rwa [Literal.endsWord_of_ne_nil _ false hnil]

/-- **A pass turns each piece by itself**, behind whatever pieces the text has in front. -/
theorem choices_eq (hg : g.Plain) : ∀ {ps : List Piece} {front : Text}, Settled front →
    Spaced last ps → front = [] ∨ beginsWord (fill last ps) = false →
    (choices p g (front ++ fill last ps) front.length ps).map (chosen ps) = allOf (ps.map (p.turned g))
  | [], _, _, _, _ => rfl
  | a :: ps, front, hfront, h, hbegins => by
    obtain ⟨hgap, hsettled⟩ := settled_step h hbegins
    obtain ⟨-, -, hclosed, hps⟩ := h
    have ih := choices_eq hg hsettled hps (.inr hclosed)
    have hsplit : front ++ fill last (a :: ps) = front ++ a.gap ++ (a.spelling ++ fill last ps) := by
      rw [fill, List.append_assoc]
    have hhead : ∀ n, p.choice g (front ++ fill last (a :: ps))
        ⟨a.spelling, front.length + a.gap.length, n⟩ =
          p.choice g a.gap ⟨a.spelling, a.gap.length, n⟩ := by
      intro n
      rw [hsplit, ← List.length_append]
      exact choice_behind hg hfront hgap _ _ n
    -- the pieces behind are choices in the same text, at the places behind this one
    rw [List.append_assoc, ← hsplit, List.length_append, List.length_append, choices] at ih
    rw [choices, places, List.map_cons, List.map_cons, Policy.turned]
    dsimp only
    simp only [hhead]
    cases (worth a.spelling).bind fun n => p.choice g a.gap ⟨a.spelling, a.gap.length, n⟩ with
    | error e => rfl
    | ok r? =>
      show ((allOf _).map (r? :: ·)).map (chosen (a :: ps)) =
        (allOf (ps.map (p.turned g))).map (r?.getD a.spelling :: ·)
      rw [← ih]
      generalize allOf (List.map _ (places _ ps)) = rest
      cases rest <;> rfl

end Piece

namespace Policy

open Piece (fill refill Spaced)

variable {p q : Policy} {g : Guard} {last : Text} {ps : List Piece}

/-- What a policy for all literals makes of a text of spaced pieces. -/
theorem respellText_fill (hg : g.Plain) (hp : p.scope = .all) (h : Spaced last ps) :
    p.respellText g (fill last ps) =
      ((allOf (ps.map (p.turned g))).map fun ss => fill last (refill ps ss)).mapError .numeral := by
  have hpass := Piece.choices_eq (p := p) hg (.inl rfl) h (.inl rfl)
  rw [List.nil_append, List.length_nil] at hpass
  rw [respellText, edits_eq hp (Piece.spellings_fill h), ← hpass]
  cases hrs : Piece.choices p g (fill last ps) 0 ps with
  | error e => rfl
  | ok rs =>
    show (Edit.applyAll (fill last ps) (Piece.changes 0 ps rs)).mapError RespellingError.edit = _
    rw [Piece.applyAll_changes last (Piece.length_choices hrs)]
    rfl

theorem respellText_eq_ok_iff (hg : g.Plain) (hp : p.scope = .all) (h : Spaced last ps) {u : Text} :
    p.respellText g (fill last ps) = .ok u ↔
      ∃ ss, List.Forall₂ (fun a s => p.turned g a = .ok s) ps ss ∧ u = fill last (refill ps ss) := by
  rw [respellText_fill hg hp h]
  constructor
  · intro hu
    cases hss : allOf (ps.map (p.turned g)) with
    | error e => rw [hss] at hu; cases hu
    | ok ss =>
      rw [hss] at hu
      exact ⟨ss, allOf_map_eq_ok_iff.1 hss, (Except.ok.inj hu).symm⟩
  · rintro ⟨ss, hss, rfl⟩
    rw [allOf_map_eq_ok_iff.2 hss]
    rfl

end Policy

/-! ## Two passes -/

namespace Piece

variable {p q : Policy} {g : Guard} {last : Text} {ps : List Piece} {ss rs : List Text}

theorem Spaced.isNumeral (h : Spaced last ps) : ∀ a ∈ ps, IsNumeral a.spelling := by
  induction ps with
  | nil => simp
  | cons a ps ih =>
    obtain ⟨-, hnum, -, hps⟩ := h
    exact List.forall_mem_cons.2 ⟨hnum, ih hps⟩

/-- Pieces that have been turned are spaced. -/
theorem Spaced.turned (h : Spaced last ps)
    (hss : List.Forall₂ (fun a s => p.turned g a = .ok s) ps ss) : Spaced last (Piece.refill ps ss) := by
  have hnum : List.Forall₂ (fun s _ => IsNumeral s ∧ True) ss ps :=
    List.Forall₂.flip <| ((List.forall₂_and_left _ _).2 ⟨h.isNumeral, hss⟩).imp fun a s ha =>
      ⟨(Policy.worth_of_turned ha.1 ha.2).1, trivial⟩
  exact h.refill hss.length_eq.symm ((List.forall₂_and_left _ _).1 hnum).1

/-- A second pass of one policy turns nothing. -/
theorem turned_refill (hps : ∀ a ∈ ps, IsNumeral a.spelling)
    (h : List.Forall₂ (fun a s => p.turned g a = .ok s) ps ss) :
    List.Forall₂ (fun a s => p.turned g a = .ok s) (refill ps ss) ss := by
  induction h with
  | nil => exact .nil
  | cons ha _ ih =>
    obtain ⟨hnum, hps⟩ := List.forall_mem_cons.1 hps
    exact .cons (Policy.turned_turned hnum ha) (ih hps)

/-- Two passes of policies for different values can be made the other way round. -/
theorem turned_refill_comm (hp : p.rule = .value) (hq : q.rule = .value)
    (hne : p.anchor.value ≠ q.anchor.value) (hps : ∀ a ∈ ps, IsNumeral a.spelling)
    (hss : List.Forall₂ (fun a s => p.turned g a = .ok s) ps ss)
    (hrs : List.Forall₂ (fun a s => q.turned g a = .ok s) (refill ps ss) rs) :
    ∃ ss', List.Forall₂ (fun a s => q.turned g a = .ok s) ps ss' ∧
      List.Forall₂ (fun a s => p.turned g a = .ok s) (refill ps ss') rs := by
  -- on the first pass; the second one goes along with it piece by piece
  induction hss generalizing rs with
  | nil =>
    obtain rfl := List.forall₂_nil_left_iff.1 hrs
    exact ⟨[], .nil, .nil⟩
  | cons ha _ ih =>
    obtain ⟨hnum, hps⟩ := List.forall_mem_cons.1 hps
    cases hrs with
    | cons hb hrs =>
      obtain ⟨s', hs', hr⟩ := Policy.turned_comm hp hq hne hnum ha hb
      obtain ⟨ss', hss', hrs'⟩ := ih hps hrs
      exact ⟨s' :: ss', .cons hs' hss', .cons hr hrs'⟩

end Piece

namespace Policy

variable {p q : Policy} {g : Guard} {t u v : Text}

/-- A pass that is made again changes nothing more. -/
theorem respellText_respellText (hg : g.Plain) (ht : Delimited t) (hp : p.scope = .all)
    (hu : p.respellText g t = .ok u) : p.respellText g u = .ok u := by
  obtain ⟨ps, last, rfl, hps⟩ := Piece.exists_spaced ht
  obtain ⟨ss, hss, rfl⟩ := (respellText_eq_ok_iff hg hp hps).1 hu
  have hagain := Piece.turned_refill hps.isNumeral hss
  refine (respellText_eq_ok_iff hg hp (hps.turned hss)).2 ⟨ss, hagain, ?_⟩
  rw [Piece.refill_refill ss hss.length_eq.symm]

/-- Passes for different values can be made the other way round. -/
theorem respellText_comm (hg : g.Plain) (ht : Delimited t) (hp : p.scope = .all) (hq : q.scope = .all)
    (hp' : p.rule = .value) (hq' : q.rule = .value) (hne : p.anchor.value ≠ q.anchor.value)
    (hv : p.respellText g t = .ok v) (hu : q.respellText g v = .ok u) :
    ∃ v', q.respellText g t = .ok v' ∧ p.respellText g v' = .ok u := by
  obtain ⟨ps, last, rfl, hps⟩ := Piece.exists_spaced ht
  obtain ⟨ss, hss, rfl⟩ := (respellText_eq_ok_iff hg hp hps).1 hv
  obtain ⟨rs, hrs, rfl⟩ := (respellText_eq_ok_iff hg hq (hps.turned hss)).1 hu
  obtain ⟨ss', hss', hrs'⟩ := Piece.turned_refill_comm hp' hq' hne hps.isNumeral hss hrs
  refine ⟨_, (respellText_eq_ok_iff hg hq hps).2 ⟨ss', hss', rfl⟩, ?_⟩
  refine (respellText_eq_ok_iff hg hp (hps.turned hss')).2 ⟨rs, hrs', ?_⟩
  rw [Piece.refill_refill rs hss.length_eq.symm, Piece.refill_refill rs hss'.length_eq.symm]

end Policy

/-- **Bulk respellings can be repeated and reordered.**  On a delimited text and under the guard that
    is used when no other is given, a policy for all literals gives a text of which it makes the same
    text again.  Of two policies for all literals of one value each, the values being different, either
    can be carried out first: if the two can be carried out in one order they can in the other, and both
    give the same text. -/
theorem bulk_respelling_repeated_reordered {t : Text} (ht : Delimited t) :
    (∀ p : Policy, p.scope = .all → ∀ u, p.respellText .default t = .ok u →
      p.respellText .default u = .ok u) ∧
    ∀ p q : Policy, p.scope = .all → q.scope = .all → p.rule = .value → q.rule = .value →
      p.anchor.value ≠ q.anchor.value → ∀ u,
        (∃ v, p.respellText .default t = .ok v ∧ q.respellText .default v = .ok u) ↔
          ∃ v, q.respellText .default t = .ok v ∧ p.respellText .default v = .ok u := by
  constructor
  · intro p hp u hu
    exact Policy.respellText_respellText Guard.plain_default ht hp hu
  · intro p q hp hq hp' hq' hne u
    constructor
    · rintro ⟨v, hv, hu⟩
      exact Policy.respellText_comm Guard.plain_default ht hp hq hp' hq' hne hv hu
    · rintro ⟨v, hv, hu⟩
      exact Policy.respellText_comm Guard.plain_default ht hq hp hq' hp' hne.symm hv hu

/-- The windows in front of the last two literals hold other literals that are written anew; the second
    ten follows a keyword and stays. -/
theorem bulk_respelling_repeated_reordered_tens :
    let t := "10;\treturn 10, 12 0xA".toList
    let p : Policy := ⟨.binary, .all, .value, "10".toList, 0, 2, 10⟩
    let q : Policy := ⟨.octal, .all, .value, "12".toList, 0, 2, 12⟩
    let v := "0b1010;\treturn 10, 12 0b1010".toList
    let u := "0b1010;\treturn 10, 0o14 0b1010".toList
    Delimited t ∧ p.anchor.value ≠ q.anchor.value ∧ p.respellText .default t = .ok v ∧
      p.respellText .default v = .ok v ∧ q.respellText .default v = .ok u ∧
      ∃ v', q.respellText .default t = .ok v' ∧ p.respellText .default v' = .ok u := by
  intro t p q v u
  have ht : Delimited t := by decide +kernel
  have hv : p.respellText .default t = .ok v := by decide +kernel
  have hu : q.respellText .default v = .ok u := by decide +kernel
  obtain ⟨hrepeated, hreordered⟩ := bulk_respelling_repeated_reordered ht
  have hne : p.anchor.value ≠ q.anchor.value := by decide
  exact ⟨ht, hne, hv, hrepeated p rfl v hv, hu, (hreordered p q rfl rfl rfl rfl hne u).1 ⟨v, hv, hu⟩⟩

end Respell
