/-
  Which numbers can be converted.

  Text and number are converted in decimal up to 4300 digits.  This is the one reason for which a
  literal cannot be read or written, and it is met in two ways: a decimal numeral can be too long, and a
  marked one can have a value that is too great to be written in decimal.  This file says for each pass
  over the literals of a text which of them it takes to succeed.

  1. **One number** can be written in decimal below `10 ^ 4300` and in the other bases always
     (`exists_write_iff`).  For a numeral to be written anew it must be read, too (`fits_iff`).

  2. **All literals of a text** have to be read for a scan (`exists_scan_iff`), and to be written as
     well for a pass and for the remarks behind them (`exists_cycleEdits_iff`,
     `exists_decorations_iff`).  A request looks at all literals and writes those that it is about
     (`exists_edits_iff`).

  3. **The literal at an offset** is looked for from the left, and the search goes no further than to the
     first literal that does not end in front of the offset (`exists_at?_iff`).

  4. **A number that is too long** and is all there is in a text (`readAll_ones`).
-/
import Respell.Session
import Respell.Proofs.Grammar

namespace Respell

open Literal (Spelling spellings)
open Numeral (Denotes IsNumeral worth write)

/-! ## Digits -/

/-- The digits of a number below a power of the radix are no more than the power says. -/
theorem length_digitsOnto_le {radix n k : Nat} (hk : 0 < k) (h : n < radix ^ k) (ds : List Nat) :
    (digitsOnto radix n ds).length ≤ k + ds.length := by
  fun_induction digitsOnto radix n ds generalizing k with
  | case1 n ds hone =>
    rw [List.length_cons]
    omega
  | case2 n ds hmore ih =>
    obtain ⟨k, rfl⟩ : ∃ k', k = k' + 1 := ⟨k - 1, by omega⟩
    have hpos : 0 < k := by
      rw [Nat.pos_iff_ne_zero]
      rintro rfl
      rw [Nat.zero_add, Nat.pow_one] at h
      exact hmore (.inl h)
    have hlt : n / radix < radix ^ k := Nat.div_lt_of_lt_mul (by rwa [← Nat.pow_succ'])
    have hle := ih hpos hlt
    rw [List.length_cons] at hle
    omega

theorem length_digits_le_iff {radix n k : Nat} (hr : 1 < radix) (hk : 0 < k) :
    (digits radix n).length ≤ k ↔ n < radix ^ k := by
  constructor
  · intro hle
    exact Nat.lt_of_lt_of_le (lt_pow_length_digits hr n) (Nat.pow_le_pow_right (by omega) hle)
  · intro hlt
    exact length_digitsOnto_le hk hlt []

/-! ## Results that can be worked on -/

theorem not_exists_error {ε α : Type} {e : ε} : ¬ ∃ a : α, Except.error e = .ok a := by
  rintro ⟨a, h⟩
  cases h

theorem exists_map_iff {ε α β : Type} {x : Except ε α} {f : α → β} :
    (∃ b, x.map f = .ok b) ↔ ∃ a, x = .ok a := by
  cases x with
  | error e => exact iff_of_false not_exists_error not_exists_error
  | ok a => exact ⟨fun _ => ⟨a, rfl⟩, fun _ => ⟨f a, rfl⟩⟩

/-- A pass over a list succeeds if it does for each member. -/
theorem exists_allOf_map_iff {ε α β : Type} {f : α → Except ε β} {as : List α} :
    (∃ bs, allOf (as.map f) = .ok bs) ↔ ∀ a ∈ as, ∃ b, f a = .ok b := by
  rw [exists_allOf_iff, List.forall_mem_map]

/-! ## One number -/

namespace Numeral

variable {b : Base} {n : Nat} {s : Text}

/-- Whether a number can be written in a base. -/
def Writable (b : Base) (n : Nat) : Prop := b = .decimal → n < 10 ^ digitLimit

/-- Whether a text, if it is a decimal numeral, is not too long to be read. -/
def Readable (s : Text) : Prop := ∀ v, Denotes .decimal s v → s.length ≤ digitLimit

/-- Whether a numeral can be read, and its value written in a base. -/
def Fits (b : Base) (s : Text) : Prop := Readable s ∧ ∀ b' v, Denotes b' s v → Writable b v

theorem exists_write_iff : (∃ s, write b n = .ok s) ↔ Writable b n := by
  cases b with
  | decimal =>
    have hlength : digitLimit < (digitsText 10 n).length ↔ ¬ n < 10 ^ digitLimit := by
      rw [digitsText, List.length_map, ← length_digits_le_iff (by decide) (by decide), Nat.not_le]
    have hwrite : write .decimal n = if digitLimit < (digitsText 10 n).length
      then .error .tooLongToWrite else .ok (digitsText 10 n) := rfl
    rw [hwrite]
    by_cases h : n < 10 ^ digitLimit
    · rw [if_neg (mt hlength.1 (not_not_intro h))]
      exact ⟨fun _ _ => h, fun _ => ⟨_, rfl⟩⟩
    · rw [if_pos (hlength.2 h)]
      exact iff_of_false not_exists_error fun hw => h (hw rfl)
  | hex | binary | octal => exact ⟨fun _ h => absurd h (by decide), fun _ => ⟨_, rfl⟩⟩

theorem exists_worth_iff : (∃ n, worth s = .ok n) ↔ Readable s := by
  unfold worth
  rw [exists_map_iff]
  constructor
  · rintro ⟨v?, hread⟩ v hv
    by_contra hlong
    have herror := read_eq_error_iff.2 ⟨v, hv, Nat.not_le.1 hlong, rfl⟩
    rw [hread] at herror
    cases herror
  · intro h
    cases hread : read s with
    | ok v? => exact ⟨v?, rfl⟩
    | error e =>
      obtain ⟨v, hv, hlong, -⟩ := read_eq_error_iff.1 hread
      exact absurd (h v hv) (Nat.not_le.2 hlong)

/-- A numeral that can be read is worth its value. -/
theorem worth_of_denotes {v : Nat} (hs : Readable s) (h : Denotes b s v) : worth s = .ok v := by
  have hread : read s = .ok (some v) := by
    refine read_eq_some_iff.2 ⟨b, h, ?_⟩
    rintro rfl
    exact hs v h
  exact worth_of_read hread

theorem exists_denotes (h : IsNumeral s) (hn : worth s = .ok n) : ∃ b, Denotes b s n := by
  have hread : read s = .ok (some n) := by
    rw [read_eq_worth h, hn]
    rfl
  obtain ⟨b, hb, -⟩ := read_eq_some_iff.1 hread
  exact ⟨b, hb⟩

/-- **A numeral fits a base** if it is worth a number that can be written there. -/
theorem fits_iff (h : IsNumeral s) : Fits b s ↔ ∃ n, worth s = .ok n ∧ Writable b n := by
  constructor
  · rintro ⟨hread, hwrite⟩
    obtain ⟨n, hn⟩ := exists_worth_iff.2 hread
    obtain ⟨b', hb'⟩ := exists_denotes h hn
    exact ⟨n, hn, hwrite b' n hb'⟩
  · rintro ⟨n, hn, hwrite⟩
    have hread : Readable s := exists_worth_iff.1 ⟨n, hn⟩
    refine ⟨hread, fun b' v hv => ?_⟩
    obtain rfl : v = n := Except.ok.inj ((worth_of_denotes hread hv).symm.trans hn)
    exact hwrite

/-- What fits decimal fits every base. -/
theorem Fits.of_decimal (h : Fits .decimal s) (b : Base) : Fits b s :=
  ⟨h.1, fun b' v hv _ => h.2 b' v hv rfl⟩

end Numeral

open Numeral (Writable Readable Fits)

/-- A value can be shown if it can be written in decimal. -/
theorem View.exists_conversions_iff {n : Nat} :
    (∃ c, View.conversions n = .ok c) ↔ n < 10 ^ digitLimit := by
  have hwrite : (∃ s, write .decimal n = .ok s) ↔ n < 10 ^ digitLimit :=
    Numeral.exists_write_iff.trans ⟨fun h => h rfl, fun h _ => h⟩
  rw [← hwrite, View.conversions]
  cases write .decimal n with
  | error e => exact iff_of_false not_exists_error not_exists_error
  | ok s => exact ⟨fun _ => ⟨s, rfl⟩, fun _ => ⟨_, rfl⟩⟩

/-! ## All literals of a text -/

/-- Whether all literals of a text can be read. -/
def AllReadable (t : Text) : Prop := ∀ s ∈ spellings t, Readable s.text

/-- Whether all literals of a text can be read and written in a base. -/
def AllFit (b : Base) (t : Text) : Prop := ∀ s ∈ spellings t, Fits b s.text

variable {b : Base} {t : Text}

theorem allReadable_nil : AllReadable [] := by
  intro s hs
  rw [spellings, Literal.spellingsFrom_nil] at hs
  cases hs

theorem AllFit.allReadable (h : AllFit b t) : AllReadable t := fun s hs => (h s hs).1

theorem AllFit.of_decimal (h : AllFit .decimal t) (b : Base) : AllFit b t :=
  fun s hs => (h s hs).of_decimal b

theorem isNumeral_of_mem_spellings {s : Spelling} (hs : s ∈ spellings t) : IsNumeral s.text :=
  Literal.isNumeral_of_mem_spellingsFrom hs

theorem exists_scan_iff : (∃ ls, Literal.scan t = .ok ls) ↔ AllReadable t := by
  rw [Literal.scan, Literal.readAll_eq, exists_allOf_map_iff]
  refine forall₂_congr fun s _ => ?_
  rw [exists_map_iff, Numeral.exists_worth_iff]

/-- **A pass** that works on each literal of a text as it is read. -/
theorem exists_pass_iff {α : Type} {f : Literal → Except NumeralError α} :
    (∃ as, allOf ((Literal.readAll t).map (·.bind f)) = .ok as) ↔
      ∀ s ∈ spellings t, ∃ n, worth s.text = .ok n ∧ ∃ a, f ⟨s.text, s.start, n⟩ = .ok a := by
  rw [Literal.readAll_eq, List.map_map, exists_allOf_map_iff]
  refine forall₂_congr fun s _ => ?_
  rw [Function.comp_apply]
  cases worth s.text with
  | error e => exact iff_of_false not_exists_error fun ⟨_, h, _⟩ => not_exists_error ⟨_, h⟩
  | ok n =>
    constructor
    · intro h
      exact ⟨n, rfl, h⟩
    · rintro ⟨n', hn, h⟩
      obtain rfl := Except.ok.inj hn
      exact h

theorem exists_cycleEdits_iff : (∃ es, cycleEdits b t = .ok es) ↔ AllFit b t := by
  rw [cycleEdits, exists_pass_iff]
  refine forall₂_congr fun s hs => ?_
  rw [Numeral.fits_iff (isNumeral_of_mem_spellings hs)]
  simp only [Literal.respell, exists_map_iff, Numeral.exists_write_iff]

/-- Remarks are there for all literals or for none. -/
theorem exists_decorations_iff {s : Session} :
    (∃ xs, s.decorationsOf t = .ok xs) ↔ (s.decorationsVisible = true → AllFit .decimal t) := by
  rw [Session.decorationsOf]
  cases s.decorationsVisible with
  | false => exact ⟨fun _ => nofun, fun _ => ⟨[], rfl⟩⟩
  | true =>
    rw [if_pos rfl, exists_pass_iff, forall_prop_of_true rfl]
    refine forall₂_congr fun m hm => ?_
    rw [Numeral.fits_iff (isNumeral_of_mem_spellings hm)]
    simp only [View.remark, exists_map_iff, View.exists_conversions_iff, Writable,
      forall_prop_of_true]

/-- What it takes to make the edits of a policy.  For one literal, its value has to be written; for
    all, each of them has to be read, and those to be written that the policy is about and the guard
    allows. -/
def Policy.Feasible (p : Policy) (g : Guard) (t : Text) : Prop :=
  match p.scope with
  | .single => Writable p.base p.anchor.value
  | .all => ∀ s ∈ spellings t, ∃ n, worth s.text = .ok n ∧
      (p.isAbout ⟨s.text, s.start, n⟩ = true → g.allows t s.start = true → Writable p.base n)

theorem exists_edits_iff {p : Policy} {g : Guard} :
    (∃ es, p.edits g t = .ok es) ↔ p.Feasible g t := by
  rw [Policy.edits, Policy.Feasible]
  cases p.scope with
  | single => rw [exists_map_iff, Numeral.exists_write_iff]
  | all =>
    dsimp only
    rw [exists_map_iff, exists_pass_iff]
    refine forall₂_congr fun s _ => exists_congr fun n => and_congr_right fun _ => ?_
    rw [Policy.editOf]
    split
    · rename_i h
      rw [Bool.and_eq_true] at h
      rw [exists_map_iff, Literal.respell, exists_map_iff, Numeral.exists_write_iff]
      exact ⟨fun hw _ _ => hw, fun hw => hw h.1 h.2⟩
    · rename_i h
      rw [Bool.and_eq_true, not_and] at h
      exact ⟨fun _ habout hallows => absurd hallows (h habout), fun _ => ⟨[], rfl⟩⟩

/-! ## The literal at an offset -/

/-- Whether a search for the literal at an offset comes to a spelling: all those in front of it end in
    front of the offset. -/
def Reaches (t : Text) (offset : Int) (s : Spelling) : Prop :=
  ∀ s' ∈ spellings t, s'.start < s.start → ((s'.start + s'.text.length : Nat) : Int) < offset

/-- Whether all literals can be read that a search for the literal at an offset comes to. -/
def Searchable (t : Text) (offset : Int) : Prop :=
  ∀ s ∈ spellings t, Reaches t offset s → Readable s.text

theorem AllReadable.searchable (h : AllReadable t) (offset : Int) : Searchable t offset :=
  fun s hs _ => h s hs

/-- The search among spellings that come in order, none of them empty. -/
theorem exists_firstTouching_iff {offset : Int} {ss : List Spelling}
    (hpair : ss.Pairwise fun m m' => m.start + m.text.length ≤ m'.start)
    (hne : ∀ s ∈ ss, s.text ≠ []) :
    (∃ found, Literal.firstTouching offset
        (ss.map fun s => (worth s.text).map fun n => ⟨s.text, s.start, n⟩) = .ok found) ↔
      ∀ s ∈ ss, (∀ s' ∈ ss, s'.start < s.start →
        ((s'.start + s'.text.length : Nat) : Int) < offset) → Readable s.text := by
  induction ss with
  | nil => exact ⟨fun _ => nofun, fun _ => ⟨none, rfl⟩⟩
  | cons s ss ih =>
    obtain ⟨hfirst, hpair⟩ := List.pairwise_cons.1 hpair
    obtain ⟨hs, hne⟩ := List.forall_mem_cons.1 hne
    have hpos : 0 < s.text.length := List.length_pos_iff.2 hs
    rw [List.map_cons]
    cases hworth : worth s.text with
    | error e =>
      -- nothing stands in front of the first one
      refine iff_of_false not_exists_error fun h => ?_
      have hread : Readable s.text := by
        refine h s List.mem_cons_self fun s' hs' hlt => ?_
        rcases List.mem_cons.1 hs' with rfl | hs'
        · exact absurd hlt (Nat.lt_irrefl _)
        · have hle := hfirst s' hs'
          omega
      obtain ⟨n, hn⟩ := Numeral.exists_worth_iff.2 hread
      rw [hworth] at hn
      cases hn
    | ok n =>
      have hread : Readable s.text := Numeral.exists_worth_iff.1 ⟨n, hworth⟩
      rw [Except.map, Literal.firstTouching]
      by_cases hbehind : ((s.start + s.text.length : Nat) : Int) < offset
      · have hleft : ¬ offset < (s.start : Int) := by omega
        have htouches : Literal.touches ⟨s.text, s.start, n⟩ offset = false := by
          rw [Literal.touches, decide_eq_false_iff_not, Literal.stop]
          dsimp only
          omega
        rw [if_neg hleft, if_neg (Bool.eq_false_iff.1 htouches), ih hpair hne, List.forall_mem_cons]
        simp only [List.forall_mem_cons, hbehind, implies_true, true_and, hread]
      · -- the search stops here
        refine iff_of_true ?_ ?_
        · split
          · exact ⟨none, rfl⟩
          · rename_i hleft
            have hle : (s.start : Int) ≤ offset := Int.not_lt.1 hleft
            have htouches : Literal.touches ⟨s.text, s.start, n⟩ offset = true := by
              rw [Literal.touches, decide_eq_true_iff, Literal.stop]
              dsimp only
              omega
            rw [if_pos htouches]
            exact ⟨_, rfl⟩
        · intro m hm hfront
          rcases List.mem_cons.1 hm with rfl | hm
          · exact hread
          · have hle := hfirst m hm
            exact absurd (hfront s List.mem_cons_self (by omega)) hbehind

/-- **The literal at an offset** is found, or found not to be there, if all literals that the search
    comes to can be read. -/
theorem exists_at?_iff {offset : Int} :
    (∃ found, Literal.at? t offset = .ok found) ↔ Searchable t offset := by
  rw [Literal.at?, Literal.readAll_eq]
  exact exists_firstTouching_iff (Literal.pairwise_spellingsFrom false 0 t)
    fun s hs => (isNumeral_of_mem_spellings hs).ne_nil

/-- The panel has to write the value of the literal as well. -/
theorem exists_hover_iff {offset : Int} :
    (∃ shown, Session.hover t offset = .ok shown) ↔ Searchable t offset ∧
      ∀ l, Literal.at? t offset = .ok (some l) → l.value < 10 ^ digitLimit := by
  rw [Session.hover, ← exists_at?_iff]
  cases Literal.at? t offset with
  | error e => exact iff_of_false not_exists_error fun h => not_exists_error h.1
  | ok found =>
    cases found with
    | none => exact iff_of_true ⟨none, rfl⟩ ⟨⟨none, rfl⟩, nofun⟩
    | some l =>
      dsimp only
      rw [exists_map_iff, View.panel, exists_map_iff, View.exists_conversions_iff]
      constructor
      · rintro h
        refine ⟨⟨_, rfl⟩, fun l' hl' => ?_⟩
        obtain rfl := Option.some.inj (Except.ok.inj hl')
        exact h
      · rintro ⟨-, h⟩
        exact h l rfl

/-! ## A number that is too long -/

/-- As many ones as there are digits in the shortest number that is too long. -/
def ones : Text := List.replicate 4301 '1'

theorem isRun_ones : Numeral.isRun .decimal ones = true := by
  rw [Numeral.isRun_iff]
  constructor
  · exact List.ne_nil_of_length_pos (by rw [ones, List.length_replicate]; decide)
  · intro c hc
    obtain rfl := List.eq_of_mem_replicate hc
    decide

theorem spellings_ones : spellings ones = [⟨0, ones⟩] := by
  have h : IsNumeral ones := Numeral.isNumeral_iff.2 (.inr isRun_ones)
  rw [spellings, Literal.spellingsFrom_numeral 0 h]

theorem read_ones : Numeral.read ones = .error (.tooLongToRead 4301) := by
  have hones : Denotes .decimal ones (Numeral.valueOf .decimal ones) :=
    .decimal (Numeral.digits_iff.2 ⟨isRun_ones, rfl⟩)
  have hlength : ones.length = 4301 := List.length_replicate
  refine Numeral.read_eq_error_iff.2 ⟨_, hones, ?_, ?_⟩
  · rw [hlength]
    decide
  · rw [hlength]

theorem readAll_ones : Literal.readAll ones = [.error (.tooLongToRead 4301)] := by
  rw [Literal.readAll_eq, spellings_ones, List.map_singleton, worth, read_ones]
  rfl

/-- Every search comes to the one literal that there is, and cannot read it. -/
theorem not_searchable_ones (offset : Int) : ¬ Searchable ones offset := by
  intro h
  have hread : Readable ones := by
    refine h ⟨0, ones⟩ (by rw [spellings_ones]; exact List.mem_cons_self) fun s _ hlt => ?_
    exact absurd hlt (Nat.not_lt_zero _)
  obtain ⟨n, hn⟩ := Numeral.exists_worth_iff.2 hread
  rw [worth, read_ones] at hn
  cases hn

theorem not_allReadable_ones : ¬ AllReadable ones := fun h => not_searchable_ones 0 (h.searchable 0)

theorem not_allFit_ones (b : Base) : ¬ AllFit b ones := fun h => not_allReadable_ones h.allReadable

end Respell
