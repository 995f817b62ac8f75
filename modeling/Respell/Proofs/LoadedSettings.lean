/-
  What settings look like that were read from a file.

  A file may spell settings in many ways: bits by numbers, texts or truth values, labels as texts, as
  mappings or not at all, and any value where a text is wanted.  What is read is of one kind all the same.

  1. **Shown texts.**  A value that counts as something is never shown as an empty text
     (`Yaml.Document.shown_ne_nil`).

  2. **Labels** (`BitLabel.IsLoaded`).  A doc is not empty, and a label that has a doc is not.  A label
     alone may be empty, since it may be given as an empty text.

  3. **Tables** (`Table.Forall`) have each key once, by the way in which they are filled.

  4. **Settings** (`Settings.isLoaded_load`) that were read have registers of this kind, whatever the file
     was.
-/
import Mathlib.Data.List.Nodup
import Respell.Proofs.Numerals
import Respell.Settings.Storage

namespace Respell

/-! ## Shown texts -/

namespace Numeral

theorem decimalText_ne_nil {n : Nat} {t : Text} (h : decimalText n = .ok t) : t ≠ [] := by
  unfold decimalText at h
  dsimp only at h
  split at h
  · cases h
  · obtain rfl := Except.ok.inj h
    rw [digitsText]
    exact fun hnil => digits_ne_nil 10 n (List.map_eq_nil_iff.1 hnil)

theorem signed_ne_nil {i : Int} {t : Text} (h : signed i = .ok t) : t ≠ [] := by
  cases i with
  | ofNat n => exact decimalText_ne_nil h
  | negSucc n =>
    rw [signed] at h
    obtain ⟨u, -, rfl⟩ := exists_of_map_eq_ok h
    exact List.cons_ne_nil _ _

end Numeral

namespace Binary64

theorem placed_ne_nil (ds : Text) (p : Int) : placed ds p ≠ [] := by
  unfold placed
  split
  · split
    · exact List.cons_ne_nil _ _
    · split
      · exact List.append_ne_nil_of_right_ne_nil _ (List.cons_ne_nil _ _)
      · exact List.append_ne_nil_of_right_ne_nil _ (List.cons_ne_nil _ _)
  · exact List.append_ne_nil_of_right_ne_nil _ (List.cons_ne_nil _ _)

theorem unitsText_ne_nil (u : Nat) : unitsText u ≠ [] := by
  unfold unitsText
  by_cases hu : u = 0
  · rw [if_pos hu]
    exact List.cons_ne_nil _ _
  · rw [if_neg hu]
    generalize shortest u 16 (pointPlace u - 1) = digits
    exact placed_ne_nil _ _

theorem text_ne_nil (x : Binary64) : x.text ≠ [] := by
  cases x with
  | nan => exact List.cons_ne_nil _ _
  | infinite s => exact List.append_ne_nil_of_right_ne_nil _ (List.cons_ne_nil _ _)
  | finite s u => exact List.append_ne_nil_of_right_ne_nil _ (unitsText_ne_nil u)

end Binary64

namespace Yaml

theorem Scalar.shown_ne_nil {s : Scalar} {t : Text} (hs : s.isTruthy = true) (h : s.shown = .ok t) :
    t ≠ [] := by
  have hdate : ∀ d : Date, d.text ≠ [] := by
    intro d
    rw [Date.text, List.append_assoc]
    exact List.append_ne_nil_of_right_ne_nil _ (List.cons_ne_nil _ _)
  cases s with
  | null => cases hs
  | bool b =>
    obtain rfl := Except.ok.inj h
    cases b <;> decide
  | int i => exact Numeral.signed_ne_nil h
  | real x =>
    obtain rfl := Except.ok.inj h
    exact x.text_ne_nil
  | noNumber origin =>
    obtain rfl := Except.ok.inj h
    exact Binary64.text_ne_nil .nan
  | bytes bs =>
    obtain rfl := Except.ok.inj h
    exact List.cons_ne_nil _ _
  | text u =>
    obtain rfl := Except.ok.inj h
    exact List.isEmpty_eq_false_iff.1 (by simpa [isTruthy] using hs)
  | date d =>
    obtain rfl := Except.ok.inj h
    exact hdate d
  | moment m =>
    obtain rfl := Except.ok.inj h
    simp only [Moment.text, List.append_assoc]
    exact List.append_ne_nil_of_left_ne_nil (hdate m.date) _

namespace Document

/-- What stands between brackets is not empty, since the brackets are there. -/
theorem ne_nil_of_bracketed {left right : Char} {ts : Except TextError (List Text)} {t : Text}
    (h : ts.map (bracketed left right) = .ok t) : t ≠ [] := by
  obtain ⟨ts, -, rfl⟩ := exists_of_map_eq_ok h
  exact List.cons_ne_nil _ _

theorem textOf_ne_nil {listed : Value → Except TextError Text} {c : Collection} {t : Text}
    (h : textOf listed c = .ok t) : t ≠ [] := by
  cases c with
  | list vs => exact ne_nil_of_bracketed h
  | pairs es => exact ne_nil_of_bracketed h
  | set ks =>
    cases ks with
    | nil =>
      obtain rfl := Except.ok.inj h
      decide
    | cons k ks => exact ne_nil_of_bracketed h
  | mapping es => exact ne_nil_of_bracketed h

/-- **A value that counts as something** is shown as something. -/
theorem shown_ne_nil {d : Document} {room : Nat} {v : Value} {t : Text} (hv : d.isTruthy v = true)
    (h : d.shown room v = .ok t) : t ≠ [] := by
  cases v with
  | scalar s =>
    dsimp only [shown] at h
    cases hs : s.shown with
    | error e =>
      rw [hs] at h
      cases h
    | ok u =>
      rw [hs] at h
      obtain rfl := Except.ok.inj h
      exact Scalar.shown_ne_nil hv hs
  | collection p =>
    dsimp only [shown] at h
    cases room with
    | zero => cases h
    | succ room =>
      cases hc : d.collections[p]? with
      | none =>
        -- a place without a collection counts as nothing
        have hnothing : d.isTruthy (.collection p) = false := by
          simp only [isTruthy, content?, hc]
        rw [hnothing] at hv
        cases hv
      | some c =>
        rw [listedWithin_collection hc List.not_mem_nil] at h
        exact textOf_ne_nil h

end Document

end Yaml

/-! ## Labels -/

/-- Whether the label of a bit is one that was read: its doc is not empty, and with a doc it is not
    empty itself. -/
def BitLabel.IsLoaded (l : BitLabel) : Prop := ∀ doc, l.doc = some doc → doc ≠ "" ∧ l.label ≠ ""

namespace Settings

open Yaml (Scalar Value)

variable {room : Nat} {d : Yaml.Document}

theorem ne_empty_of_textOf {x : Except NumeralError Text} {s : String}
    (hx : ∀ t, x = .ok t → t ≠ []) (h : textOf x = .ok s) : s ≠ "" := by
  cases x with
  | error e => cases h
  | ok t =>
    obtain rfl : String.ofList t = s := Except.ok.inj h
    intro hempty
    refine hx t rfl ?_
    have hlist := congrArg String.toList hempty
    rwa [String.toList_ofList] at hlist

theorem bitName_ne_empty {bit : Int} {s : String} (h : bitName bit = .ok s) : s ≠ "" := by
  refine ne_empty_of_textOf (fun t ht => ?_) h
  obtain ⟨u, -, rfl⟩ := exists_of_map_eq_ok ht
  exact List.append_ne_nil_of_left_ne_nil (by decide) u

/-- A value that is found under a key and counts as something is shown as something. -/
theorem ne_empty_of_something? {es : List (Scalar × Value)} {key : String} {v : Value} {s : String}
    (hv : something? d es key = some v) (h : textIn room d v = .ok s) : s ≠ "" := by
  have htruthy : d.isTruthy v = true := by
    unfold something? at hv
    split at hv
    · cases hv
    · split at hv
      · exact Option.some.inj hv ▸ ‹_›
      · cases hv
  unfold textIn at h
  split at h
  · rename_i t ht
    refine ne_empty_of_textOf (fun u hu => ?_) (show textOf (.ok t) = .ok s from h)
    obtain rfl := Except.ok.inj hu
    exact Yaml.Document.shown_ne_nil htruthy ht
  · cases h
  · cases h

theorem labelOfEntries_eq (room : Nat) (d : Yaml.Document) (bit : Int) (es : List (Scalar × Value)) :
    labelOfEntries room d bit es =
      (match something? d es labelKey with
        | none => bitName bit
        | some v => textIn room d v).bind fun label =>
          match something? d es docKey with
          | none => .ok ⟨label, none⟩
          | some v => (textIn room d v).map fun doc => ⟨label, some doc⟩ := by
  unfold labelOfEntries
  cases something? d es labelKey <;> rfl

theorem isLoaded_labelOfEntries {bit : Int} {es : List (Scalar × Value)} {l : BitLabel}
    (h : labelOfEntries room d bit es = .ok l) : l.IsLoaded := by
  rw [labelOfEntries_eq] at h
  obtain ⟨label, hlabel, h⟩ := exists_of_bind_eq_ok h
  have hne : label ≠ "" := by
    split at hlabel
    · exact bitName_ne_empty hlabel
    · exact ne_empty_of_something? ‹_› hlabel
  split at h
  · obtain rfl := Except.ok.inj h
    intro doc hdoc
    cases hdoc
  · rename_i v hv
    obtain ⟨doc, hdoc, rfl⟩ := exists_of_map_eq_ok h
    intro doc' hdoc'
    obtain rfl := Option.some.inj hdoc'
    exact ⟨ne_empty_of_something? hv hdoc, hne⟩

/-- **A label that is read** is of the kind that was said. -/
theorem isLoaded_labelOf {bit : Int} {v : Value} {l : BitLabel} (h : labelOf room d bit v = .ok l) :
    l.IsLoaded := by
  unfold labelOf at h
  split at h
  · obtain rfl := Except.ok.inj h
    intro doc hdoc
    cases hdoc
  · exact isLoaded_labelOfEntries h
  · obtain ⟨name, -, rfl⟩ := exists_of_map_eq_ok h
    intro doc hdoc
    cases hdoc

end Settings

/-! ## Tables -/

namespace Table

variable {κ α : Type} [DecidableEq κ] {P : α → Prop} {k j : κ} {a b : α} {t : Table κ α}

/-- Whether a table has each key once, and values of a kind. -/
structure Forall (P : α → Prop) (t : Table κ α) : Prop where
  nodup : (t.map Prod.fst).Nodup
  values : ∀ e ∈ t, P e.2

omit [DecidableEq κ] in
theorem Forall.nil : Forall P ([] : Table κ α) := ⟨List.nodup_nil, List.forall_mem_nil _⟩

theorem mem_keys_set (k j : κ) (a : α) (t : Table κ α) :
    j ∈ (set k a t).map Prod.fst ↔ j = k ∨ j ∈ t.map Prod.fst := by
  induction t with
  | nil => simp [set]
  | cons e t ih =>
    rw [set]
    split
    · rename_i hk
      simp [hk]
    · simp only [List.map_cons, List.mem_cons, ih]
      exact or_left_comm

theorem Forall.set (h : Forall P t) (k : κ) (ha : P a) : Forall P (set k a t) := by
  induction t with
  | nil => exact ⟨List.nodup_singleton k, by simpa [Table.set] using ha⟩
  | cons e t ih =>
    have hnodup := List.nodup_cons.1 h.nodup
    have hvalues := List.forall_mem_cons.1 h.values
    rw [Table.set]
    split
    · exact ⟨h.nodup, List.forall_mem_cons.2 ⟨ha, hvalues.2⟩⟩
    · rename_i hk
      have hset := ih ⟨hnodup.2, hvalues.2⟩
      refine ⟨List.nodup_cons.2 ⟨?_, hset.nodup⟩, List.forall_mem_cons.2 ⟨hvalues.1, hset.values⟩⟩
      rw [mem_keys_set]
      rintro (hsame | hmem)
      · exact hk hsame
      · exact hnodup.1 hmem

end Table

/-! ## Settings -/

/-- Whether the bits of a register were read. -/
abbrev Register.IsLoaded (r : Register) : Prop := Table.Forall BitLabel.IsLoaded r

namespace Settings

open Yaml (Scalar Value)

variable {room : Nat} {d : Yaml.Document}

/-- Whether the registers of settings were read. -/
def IsLoaded (s : Settings) : Prop := Table.Forall Register.IsLoaded s.registers

theorem isLoaded_readBits {register : Scalar} {notes : List Note} {done r : Register}
    {es : List (Scalar × Value)} (hdone : done.IsLoaded)
    (h : (readBits room d register notes done es).result = .ok r) : r.IsLoaded := by
  induction es generalizing notes done with
  | nil =>
    obtain rfl := Except.ok.inj h
    exact hdone
  | cons e es ih =>
    obtain ⟨key, v⟩ := e
    unfold readBits at h
    split at h
    · cases h
    · exact ih hdone h
    · split at h
      · cases h
      · exact ih (hdone.set _ (isLoaded_labelOf ‹_›)) h

theorem isLoaded_readRegisters {notes : List Note} {done rs : Registers} {es : List (Scalar × Value)}
    (hdone : Table.Forall Register.IsLoaded done)
    (h : (readRegisters room d notes done es).result = .ok rs) : Table.Forall Register.IsLoaded rs := by
  induction es generalizing notes done with
  | nil =>
    obtain rfl := Except.ok.inj h
    exact hdone
  | cons e es ih =>
    obtain ⟨register, v⟩ := e
    unfold readRegisters at h
    split at h
    · split at h <;> cases h
    · rename_i bits _
      unfold Attempt.andThen at h
      split at h
      · rename_i r hr
        have hloaded : Register.IsLoaded r := isLoaded_readBits .nil hr
        split at h
        · cases h
        · exact ih (hdone.set _ hloaded) h
      · cases h

theorem isLoaded_of_nil {s : Settings} (h : s.registers = []) : s.IsLoaded := by
  rw [IsLoaded, h]
  exact .nil

theorem readSwitches_eq (d : Yaml.Document) (es : List (Scalar × Value)) :
    readSwitches d es =
      (match Yaml.Document.get? es keywordsKey with
        | none => Except.ok default.keywords
        | some v => keywordsOf d v).bind fun keywords =>
          (boolOf es dualDisplayKey default.dualDisplay).bind fun dualDisplay =>
            (boolOf es decorationsKey default.decorations).bind fun decorations =>
              .ok ⟨keywords, dualDisplay, decorations, []⟩ := by
  unfold readSwitches
  cases Yaml.Document.get? es keywordsKey <;> rfl

theorem registers_readSwitches {es : List (Scalar × Value)} {s : Settings}
    (h : readSwitches d es = .ok s) : s.registers = [] := by
  rw [readSwitches_eq] at h
  obtain ⟨keywords, -, h⟩ := exists_of_bind_eq_ok h
  obtain ⟨dualDisplay, -, h⟩ := exists_of_bind_eq_ok h
  obtain ⟨decorations, -, h⟩ := exists_of_bind_eq_ok h
  obtain rfl := Except.ok.inj h
  rfl

theorem isLoaded_ofEntries {es : List (Scalar × Value)} {s : Settings}
    (h : (ofEntries room d es).result = .ok s) : s.IsLoaded := by
  unfold ofEntries at h
  split at h
  · cases h
  · rename_i s₀ hs₀
    split at h
    · obtain rfl := Except.ok.inj h
      exact isLoaded_of_nil (registers_readSwitches hs₀)
    · cases h
    · unfold Attempt.andThen at h
      split at h
      · rename_i rs hrs
        obtain rfl := Except.ok.inj h
        exact isLoaded_readRegisters .nil hrs
      · cases h

theorem isLoaded_ofBytes {path : String} {bytes : List UInt8} {s : Settings}
    (h : (ofBytes room path bytes).result = .ok s) : s.IsLoaded := by
  unfold ofBytes at h
  split at h
  · cases h
  · split at h
    · cases h
    · exact isLoaded_ofEntries h

/-- **Settings that were read** have registers of one kind, whatever the file was, and also if there was
    none. -/
theorem isLoaded_load {env : Environment} {fs : Files} {asked : Option String} {s : Settings}
    (h : (load env fs asked).result = .ok s) : s.IsLoaded := by
  unfold load at h
  split at h
  · cases h
  · dsimp only at h
    split at h
    · cases h
    · obtain rfl := Except.ok.inj h
      exact isLoaded_of_nil rfl
    · split at h
      · cases h
      · exact isLoaded_ofBytes h

end Settings

end Respell
