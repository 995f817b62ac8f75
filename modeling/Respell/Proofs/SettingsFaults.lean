/-
  Faults in the settings that are not found.

  What is wrong with a file of settings is said by an error of the settings, but not all of it.  A number
  may be too long for the text that is made of it, a bit number may be infinite, and a label or a doc may
  have values too deep in one another for their text to be made.  Then the error is one that no one who
  reads settings waits for.

  1. **Errors** are of the settings, or they stray (`SettingsError.IsStray`).  `StraysIff` says of a result
     that it strays if and only if something holds.

  2. **Bits** stray by their number, their label or their doc (`BitFault`), and fail in no other way.

  3. **Registers** stray by their name or by a bit (`RegisterFault`).  But a register that is no mapping is
     refused, and nothing behind it is looked at; so it is the faults in front of it that count
     (`MeetsFault`).

  4. **The law** (`Settings.load_strays_iff`).  Reading strays if and only if the switches are all right and
     a fault is met among the registers.
-/
import Respell.Proofs.SettingsKept
import Respell.Proofs.ShownValues

namespace Respell

/-! ## Errors -/

/-- Whether an error is one of a number or a text that the settings are made of, and not of the
    settings. -/
def SettingsError.IsStray (e : SettingsError) : Prop :=
  e = .infiniteBit ∨ e = .numeral .tooLongToWrite ∨ e = .tooDeep

theorem SettingsError.isOwn_of_isStray {e : SettingsError} (h : e.IsStray) : e.isOwn = false := by
  rcases h with rfl | rfl | rfl <;> rfl

/-- Whether a result is an error that strays if and only if something holds.  All other errors are of the
    settings. -/
inductive StraysIff {α : Type} (P : Prop) : Except SettingsError α → Prop where
  | strays {e : SettingsError} : e.IsStray → P → StraysIff P (.error e)
  | refuses {e : SettingsError} : e.isOwn = true → ¬ P → StraysIff P (.error e)
  | succeeds (a : α) : ¬ P → StraysIff P (.ok a)

namespace StraysIff

variable {α β : Type} {P Q : Prop} {r : Except SettingsError α}

theorem congr (h : StraysIff P r) (hPQ : P ↔ Q) : StraysIff Q r := by
  cases h with
  | strays he hP => exact .strays he (hPQ.1 hP)
  | refuses he hP => exact .refuses he (mt hPQ.2 hP)
  | succeeds a hP => exact .succeeds a (mt hPQ.2 hP)

theorem map (h : StraysIff P r) (f : α → β) : StraysIff P (r.map f) := by
  cases h with
  | strays he hP => exact .strays he hP
  | refuses he hP => exact .refuses he hP
  | succeeds a hP => exact .succeeds (f a) hP

/-- One result and then, if it is a success, another. -/
theorem bind (h : FailsIff SettingsError.IsStray P r) {f : α → Except SettingsError β}
    (hf : ∀ a, StraysIff Q (f a)) : StraysIff (P ∨ Q) (r.bind f) := by
  cases h with
  | fails he hP => exact .strays he (.inl hP)
  | succeeds a hP => exact (hf a).congr (or_iff_right hP).symm

theorem isOwn_or_isStray (h : StraysIff P r) {e : SettingsError} (he : r = .error e) :
    e.isOwn = true ∨ e.IsStray := by
  subst he
  cases h with
  | strays he _ => exact .inr he
  | refuses he _ => exact .inl he

theorem exists_iff (h : StraysIff P r) : (∃ e, r = .error e ∧ e.isOwn = false) ↔ P := by
  cases h with
  | strays he hP => exact iff_of_true ⟨_, rfl, SettingsError.isOwn_of_isStray he⟩ hP
  | refuses he hP =>
    refine iff_of_false ?_ hP
    rintro ⟨e, hsame, hnot⟩
    obtain rfl := Except.error.inj hsame
    rw [he] at hnot
    cases hnot
  | succeeds a hP => exact iff_of_false (fun ⟨_, h, _⟩ => nomatch h) hP

end StraysIff

namespace Settings

open Numeral (NoTextIff signed_noTextIff)
open SettingsError (IsStray)
open Yaml (Scalar Value)

variable {room : Nat} {d : Yaml.Document} {bit : Int} {key register : Scalar} {v : Value}
  {es : List (Scalar × Value)} {P : Prop}

/-! ## Bits -/

/-- Whether a bit gets its name from its number. -/
def NeedsName (d : Yaml.Document) (v : Value) : Prop :=
  (∀ t, v ≠ .scalar (.text t)) ∧ ∀ es, d.entries? v = some es → something? d es labelKey = none

/-- Whether a text that is wanted for a bit cannot be made. -/
inductive LabelFault (room : Nat) (d : Yaml.Document) (bit : Int) (v : Value) : Prop where
  /-- The number that the bit is to be named by is too long. -/
  | name : NeedsName d v → Numeral.IsLong bit → LabelFault room d bit v
  /-- The label or the doc holds a number that is too long, or goes too deep. -/
  | part {es : List (Scalar × Value)} {k : String} {w : Value} : d.entries? v = some es →
      k = labelKey ∨ k = docKey → something? d es k = some w → d.Unshown room w →
      LabelFault room d bit v

/-- Whether a bit cannot be read, and no error of the settings says so. -/
inductive BitFault (room : Nat) (d : Yaml.Document) : Scalar → Value → Prop where
  | infinite (negative : Bool) (v : Value) : BitFault room d (.real (.infinite negative)) v
  | label {key : Scalar} {v : Value} {bit : Int} : bitOf key = .ok (some bit) →
      LabelFault room d bit v → BitFault room d key v

theorem textOf_failsIff {t : Except NumeralError Text} (h : NoTextIff P t) :
    FailsIff IsStray P (textOf t) := by
  cases h with
  | fails he hP =>
    subst he
    exact .fails (.inr (.inl rfl)) hP
  | succeeds t hP => exact .succeeds _ hP

theorem textIn_failsIff (room : Nat) (d : Yaml.Document) (v : Value) :
    FailsIff IsStray (d.Unshown room v) (textIn room d v) := by
  have hshown := d.shown_noTextIff room v
  unfold textIn
  generalize d.shown room v = t at hshown
  cases hshown with
  | fails he hP =>
    rcases he with rfl | rfl
    · exact .fails (.inr (.inl rfl)) hP
    · exact .fails (.inr (.inr rfl)) hP
  | succeeds t hP => exact .succeeds _ hP

theorem bitName_failsIff (bit : Int) : FailsIff IsStray (Numeral.IsLong bit) (bitName bit) :=
  textOf_failsIff ((signed_noTextIff bit).map _)

/-- The label by its key, or else the name of the bit. -/
theorem labelText_failsIff (room : Nat) (d : Yaml.Document) (bit : Int) (es : List (Scalar × Value)) :
    FailsIff IsStray
      (something? d es labelKey = none ∧ Numeral.IsLong bit ∨
        ∃ w, something? d es labelKey = some w ∧ d.Unshown room w)
      (match something? d es labelKey with
        | none => bitName bit
        | some w => textIn room d w) := by
  cases something? d es labelKey with
  | none => exact (bitName_failsIff bit).congr (by simp)
  | some w => exact (textIn_failsIff room d w).congr (by simp)

/-- The doc by its key, behind the label. -/
theorem docText_failsIff (room : Nat) (d : Yaml.Document) (es : List (Scalar × Value))
    (label : String) :
    FailsIff IsStray (∃ w, something? d es docKey = some w ∧ d.Unshown room w)
      (match something? d es docKey with
        | none => .ok ⟨label, none⟩
        | some w => (textIn room d w).map fun doc => (⟨label, some doc⟩ : BitLabel)) := by
  cases something? d es docKey with
  | none => exact .succeeds _ (by simp)
  | some w => exact ((textIn_failsIff room d w).map _).congr (by simp)

theorem labelFault_iff_of_entries (hv : d.entries? v = some es) : LabelFault room d bit v ↔
    (something? d es labelKey = none ∧ Numeral.IsLong bit ∨
      ∃ w, something? d es labelKey = some w ∧ d.Unshown room w) ∨
    ∃ w, something? d es docKey = some w ∧ d.Unshown room w := by
  constructor
  · rintro (⟨⟨-, hnone⟩, hlong⟩ | ⟨hes, rfl | rfl, hw, hlong⟩)
    · exact .inl (.inl ⟨hnone es hv, hlong⟩)
    · obtain rfl := Option.some.inj (hv.symm.trans hes)
      exact .inl (.inr ⟨_, hw, hlong⟩)
    · obtain rfl := Option.some.inj (hv.symm.trans hes)
      exact .inr ⟨_, hw, hlong⟩
  · rintro ((⟨hnone, hlong⟩ | ⟨w, hw, hlong⟩) | ⟨w, hw, hlong⟩)
    · refine .name ⟨?_, fun es' hes' => ?_⟩ hlong
      · rintro t rfl
        cases hv
      · obtain rfl := Option.some.inj (hv.symm.trans hes')
        exact hnone
    · exact .part hv (.inl rfl) hw hlong
    · exact .part hv (.inr rfl) hw hlong

theorem labelFault_iff_of_no_entries (hv : d.entries? v = none) (htext : ∀ t, v ≠ .scalar (.text t)) :
    LabelFault room d bit v ↔ Numeral.IsLong bit := by
  constructor
  · rintro (⟨-, hlong⟩ | ⟨hes, -, -, -⟩)
    · exact hlong
    · rw [hv] at hes
      cases hes
  · intro hlong
    refine .name ⟨htext, fun es hes => ?_⟩ hlong
    rw [hv] at hes
    cases hes

theorem not_labelFault_text {t : Text} : ¬ LabelFault room d bit (.scalar (.text t)) := by
  rintro (⟨⟨htext, -⟩, -⟩ | ⟨hes, -, -, -⟩)
  · exact htext t rfl
  · cases hes

/-- **The label of a bit** is made if all texts for it can be made. -/
theorem labelOf_failsIff (room : Nat) (d : Yaml.Document) (bit : Int) (v : Value) :
    FailsIff IsStray (LabelFault room d bit v) (labelOf room d bit v) := by
  unfold labelOf
  split
  · exact .succeeds _ not_labelFault_text
  · rename_i es _ hv
    rw [labelOfEntries_eq]
    refine ((labelText_failsIff room d bit es).bind (docText_failsIff room d es)).congr ?_
    exact (labelFault_iff_of_entries hv).symm
  · rename_i htext hv
    refine ((bitName_failsIff bit).map _).congr ?_
    exact (labelFault_iff_of_no_entries hv htext).symm

/-- A key has no number only if it is infinite. -/
theorem bitOf_eq_error {e : SettingsError} (h : bitOf key = .error e) :
    e = .infiniteBit ∧ ∃ negative, key = .real (.infinite negative) := by
  unfold bitOf at h
  split at h
  case h_3 negative =>
    obtain rfl := Except.error.inj h
    exact ⟨rfl, negative, rfl⟩
  all_goals cases h

theorem bitFault_iff {bit? : Option Int} (h : bitOf key = .ok bit?) :
    BitFault room d key v ↔ ∃ bit, bit? = some bit ∧ LabelFault room d bit v := by
  constructor
  · rintro (_ | ⟨hbit, hlabel⟩)
    · cases h
    · rw [h] at hbit
      exact ⟨_, Except.ok.inj hbit, hlabel⟩
  · rintro ⟨bit, rfl, hlabel⟩
    exact .label h hlabel

/-- **The bits of a register** are read if none has a fault. -/
theorem readBits_failsIff (room : Nat) (d : Yaml.Document) (register : Scalar) (notes : List Note)
    (done : Register) (es : List (Scalar × Value)) :
    FailsIff IsStray (∃ e ∈ es, BitFault room d e.1 e.2) (readBits room d register notes done es).result := by
  induction es generalizing notes done with
  | nil => exact .succeeds _ (by simp)
  | cons e es ih =>
    obtain ⟨key, v⟩ := e
    unfold readBits
    cases hbit : bitOf key with
    | error e =>
      -- whatever is set for the bit, it is not looked at
      obtain ⟨rfl, negative, rfl⟩ := bitOf_eq_error hbit
      exact .fails (.inl rfl) ⟨_, List.mem_cons_self, .infinite negative v⟩
    | ok bit? =>
      rw [List.exists_mem_cons_iff, bitFault_iff hbit]
      cases bit? with
      | none => exact (ih _ _).congr (by simp)
      | some bit =>
        have hlabel := labelOf_failsIff room d bit v
        dsimp only
        generalize labelOf room d bit v = l at hlabel
        cases hlabel with
        | fails he hP => exact .fails he (.inl ⟨bit, rfl, hP⟩)
        | succeeds l hP => exact (ih _ _).congr (by simp [hP])

/-! ## Registers -/

/-- Whether a register cannot be read, and no error of the settings says so. -/
inductive RegisterFault (room : Nat) (d : Yaml.Document) (register : Scalar) (v : Value) : Prop where
  | name : register.IsLong → RegisterFault room d register v
  | bit {es : List (Scalar × Value)} {e : Scalar × Value} : entriesOf? d v = some es → e ∈ es →
      BitFault room d e.1 e.2 → RegisterFault room d register v

/-- Whether one of some registers has a fault, with none in front of it that is refused. -/
def MeetsFault (room : Nat) (d : Yaml.Document) (rs : List (Scalar × Value)) : Prop :=
  ∃ front e back, rs = front ++ e :: back ∧ (∀ x ∈ front, (entriesOf? d x.2).isSome = true) ∧
    RegisterFault room d e.1 e.2

theorem meetsFault_cons_iff {e : Scalar × Value} {rs : List (Scalar × Value)} :
    MeetsFault room d (e :: rs) ↔
      RegisterFault room d e.1 e.2 ∨ (entriesOf? d e.2).isSome = true ∧ MeetsFault room d rs := by
  constructor
  · rintro ⟨front, x, back, hsplit, hfront, hfault⟩
    cases front with
    | nil =>
      obtain ⟨rfl, -⟩ := List.cons.inj hsplit
      exact .inl hfault
    | cons y front =>
      obtain ⟨rfl, rfl⟩ := List.cons.inj hsplit
      obtain ⟨hy, hfront⟩ := List.forall_mem_cons.1 hfront
      exact .inr ⟨hy, front, x, back, rfl, hfront, hfault⟩
  · rintro (hfault | ⟨he, front, x, back, rfl, hfront, hfault⟩)
    · exact ⟨[], e, rs, rfl, List.forall_mem_nil _, hfault⟩
    · exact ⟨e :: front, x, back, rfl, List.forall_mem_cons.2 ⟨he, hfront⟩, hfault⟩

theorem registerFault_iff_of_entries (hv : entriesOf? d v = some es) :
    RegisterFault room d register v ↔ (∃ e ∈ es, BitFault room d e.1 e.2) ∨ register.IsLong := by
  constructor
  · rintro (hlong | ⟨hes, he, hfault⟩)
    · exact .inr hlong
    · obtain rfl := Option.some.inj (hv.symm.trans hes)
      exact .inl ⟨_, he, hfault⟩
  · rintro (⟨e, he, hfault⟩ | hlong)
    · exact .bit hv he hfault
    · exact .name hlong

theorem registerFault_iff_of_no_entries (hv : entriesOf? d v = none) :
    RegisterFault room d register v ↔ register.IsLong := by
  constructor
  · rintro (hlong | ⟨hes, -, -⟩)
    · exact hlong
    · rw [hv] at hes
      cases hes
  · exact .name

theorem result_andThen {σ α β : Type} (x : Attempt σ SettingsError α)
    (f : σ → α → Attempt σ SettingsError β) :
    (x.andThen f).result = x.result.bind fun a => (f x.state a).result := by
  unfold Attempt.andThen
  cases x.result <;> rfl

/-- **Registers** are read, up to the first that is refused or has a fault. -/
theorem readRegisters_straysIff (room : Nat) (d : Yaml.Document) (notes : List Note) (done : Registers)
    (rs : List (Scalar × Value)) :
    StraysIff (MeetsFault room d rs) (readRegisters room d notes done rs).result := by
  -- on the registers, with what was read of those in front
  induction rs generalizing notes done with
  | nil =>
    refine .succeeds _ ?_
    rintro ⟨front, e, back, hsplit, -⟩
    exact List.append_ne_nil_of_right_ne_nil front (List.cons_ne_nil e back) hsplit.symm
  | cons e rs ih =>
    obtain ⟨register, v⟩ := e
    have hname := textOf_failsIff register.shown_noTextIff
    rw [meetsFault_cons_iff]
    unfold readRegisters
    cases hv : entriesOf? d v with
    | none =>
      -- the register is refused, and only its own name, which the error gives, can still stray
      have hiff : register.IsLong ↔ RegisterFault room d register v :=
        (registerFault_iff_of_no_entries hv).symm
      dsimp only
      generalize textOf register.shown = name at hname
      cases hname with
      | fails he hlong => exact .strays he (.inl (hiff.1 hlong))
      | succeeds name hlong => exact .refuses rfl (by simp [← hiff, hlong])
    | some bits =>
      dsimp only
      rw [result_andThen, registerFault_iff_of_entries hv, or_assoc]
      refine StraysIff.bind (readBits_failsIff room d register notes [] bits) fun r => ?_
      generalize textOf register.shown = name at hname
      cases hname with
      | fails he hlong => exact .strays he (.inl hlong)
      | succeeds name hlong => exact (ih _ _).congr (by simp [hlong])

/-! ## Files -/

/-- Whether a value can be set for the keywords: texts in a list, or nothing. -/
inductive IsKeywords (d : Yaml.Document) (v : Value) : Prop where
  | null : v = .scalar .null → IsKeywords d v
  | texts {vs : List Value} : d.content? v = some (.list vs) → (∀ w ∈ vs, ∃ t, w = .scalar (.text t)) →
      IsKeywords d v
  | pairs : d.content? v = some (.pairs []) → IsKeywords d v

/-- Whether one of the settings in front of the registers is of a wrong kind. -/
inductive SwitchFault (d : Yaml.Document) (es : List (Scalar × Value)) : Prop where
  | keywords {v : Value} : Yaml.Document.get? es keywordsKey = some v → ¬ IsKeywords d v →
      SwitchFault d es
  | bool {k : String} {v : Value} : k = dualDisplayKey ∨ k = decorationsKey →
      Yaml.Document.get? es k = some v → (∀ b, v ≠ .scalar (.bool b)) → SwitchFault d es

theorem isSome_text?_iff : (text? v).isSome = true ↔ ∃ t, v = .scalar (.text t) := by
  constructor
  · intro h
    unfold text? at h
    split at h
    · exact ⟨_, rfl⟩
    · cases h
  · rintro ⟨t, rfl⟩
    rfl

theorem keywordsOf_failsIff (d : Yaml.Document) (v : Value) :
    FailsIff (·.isOwn = true) (¬ IsKeywords d v) (keywordsOf d v) := by
  unfold keywordsOf
  split
  · exact .succeeds _ (not_not.2 (.null rfl))
  · rename_i vs hnull hcontent
    have hall : (vs.all fun w => (text? w).isSome) = true ↔ ∀ w ∈ vs, ∃ t, w = .scalar (.text t) := by
      rw [List.all_eq_true]
      exact forall₂_congr fun w _ => isSome_text?_iff
    split
    · rename_i htexts
      exact .succeeds _ (not_not.2 (.texts hcontent (hall.1 htexts)))
    · rename_i htexts
      refine .fails rfl fun hkeywords => ?_
      rcases hkeywords with hv | ⟨hlist, hvs⟩ | hpairs
      · exact hnull hv
      · rw [hcontent] at hlist
        cases hlist
        exact htexts (hall.2 hvs)
      · rw [hcontent] at hpairs
        cases hpairs
  · exact .succeeds _ (not_not.2 (.pairs ‹_›))
  · rename_i hnull hlist hpairs
    refine .fails rfl fun hkeywords => ?_
    rcases hkeywords with hv | ⟨hvs, -⟩ | hnone
    · exact hnull hv
    · exact hlist _ hvs
    · exact hpairs hnone

theorem boolOf_failsIff (es : List (Scalar × Value)) (k : String) (usual : Bool) :
    FailsIff (·.isOwn = true)
      (∃ v, Yaml.Document.get? es k = some v ∧ ∀ b, v ≠ .scalar (.bool b)) (boolOf es k usual) := by
  unfold boolOf
  split
  · rename_i hnone
    refine .succeeds _ ?_
    rintro ⟨v, hv, -⟩
    rw [hnone] at hv
    cases hv
  · rename_i b hb
    refine .succeeds _ ?_
    rintro ⟨v, hv, hbool⟩
    rw [hb] at hv
    exact hbool b (Option.some.inj hv).symm
  · rename_i v hbool hv
    refine .fails rfl ⟨v, hv, ?_⟩
    rintro b rfl
    exact hbool b rfl

/-- **What comes before the registers** is refused if something in it is of a wrong kind, and does not
    stray. -/
theorem readSwitches_failsIff (d : Yaml.Document) (es : List (Scalar × Value)) :
    FailsIff (·.isOwn = true) (SwitchFault d es) (readSwitches d es) := by
  have hkeywords : FailsIff (·.isOwn = true)
      (∃ v, Yaml.Document.get? es keywordsKey = some v ∧ ¬ IsKeywords d v)
      (match Yaml.Document.get? es keywordsKey with
        | none => Except.ok default.keywords
        | some v => keywordsOf d v) := by
    cases Yaml.Document.get? es keywordsKey with
    | none => exact .succeeds _ (by simp)
    | some v => exact (keywordsOf_failsIff d v).congr (by simp)
  have hbool := boolOf_failsIff es
  rw [readSwitches_eq]
  refine (hkeywords.bind fun _ => (hbool dualDisplayKey _).bind fun _ =>
    (hbool decorationsKey _).map _).congr ?_
  constructor
  · rintro (⟨v, hv, hkind⟩ | ⟨v, hv, hkind⟩ | ⟨v, hv, hkind⟩)
    · exact .keywords hv hkind
    · exact .bool (.inl rfl) hv hkind
    · exact .bool (.inr rfl) hv hkind
  · rintro (⟨hv, hkind⟩ | ⟨rfl | rfl, hv, hkind⟩)
    · exact .inl ⟨_, hv, hkind⟩
    · exact .inr (.inl ⟨_, hv, hkind⟩)
    · exact .inr (.inr ⟨_, hv, hkind⟩)

/-- Whether a mapping has settings in which a fault is met. -/
def Strays (room : Nat) (d : Yaml.Document) (es : List (Scalar × Value)) : Prop :=
  ¬ SwitchFault d es ∧ ∃ v rs, Yaml.Document.get? es registersKey = some v ∧
    entriesOf? d v = some rs ∧ MeetsFault room d rs

theorem ofEntries_straysIff (room : Nat) (d : Yaml.Document) (es : List (Scalar × Value)) :
    StraysIff (Strays room d es) (ofEntries room d es).result := by
  have hswitches := readSwitches_failsIff d es
  unfold ofEntries
  generalize readSwitches d es = switches at hswitches
  cases hswitches with
  | fails he hfault => exact .refuses he fun hstrays => hstrays.1 hfault
  | succeeds s hfault =>
    dsimp only
    cases hget : Yaml.Document.get? es registersKey with
    | none =>
      refine .succeeds _ ?_
      rintro ⟨-, v, rs, hv, -⟩
      rw [hget] at hv
      cases hv
    | some v =>
      rw [Option.map_some]
      cases hentries : entriesOf? d v with
      | none =>
        refine .refuses rfl ?_
        rintro ⟨-, w, rs, hw, hrs, -⟩
        obtain rfl := Option.some.inj (hget.symm.trans hw)
        rw [hentries] at hrs
        cases hrs
      | some rs =>
        have hiff : MeetsFault room d rs ↔ Strays room d es := by
          constructor
          · intro hmeets
            exact ⟨hfault, v, rs, hget, hentries, hmeets⟩
          · rintro ⟨-, w, rs', hw, hrs', hmeets⟩
            obtain rfl := Option.some.inj (hget.symm.trans hw)
            obtain rfl := Option.some.inj (hentries.symm.trans hrs')
            exact hmeets
        dsimp only
        rw [result_andThen]
        exact ((readRegisters_straysIff room d [] [] rs).map _).congr hiff

theorem ofBytes_straysIff (room : Nat) {path : String} {bytes : List UInt8}
    (hd : documentOf path bytes = .ok d) :
    StraysIff (∃ es, entriesOf? d d.root = some es ∧ Strays room d es) (ofBytes room path bytes).result := by
  unfold ofBytes
  rw [hd]
  dsimp only
  cases hes : entriesOf? d d.root with
  | none =>
    refine .refuses rfl ?_
    rintro ⟨es, hsome, -⟩
    cases hsome
  | some es =>
    refine (ofEntries_straysIff room d es).congr ⟨fun h => ⟨es, rfl, h⟩, ?_⟩
    rintro ⟨es', hsame, hstrays⟩
    exact Option.some.inj hsame ▸ hstrays

variable {env : Environment} {fs : Files} {asked : Option String} {path : Path} {bytes : List UInt8}

theorem load_of_read (hpath : resolve env asked = .ok path) (hread : fs.read path.toString = .ok bytes) :
    load env fs asked = ofBytes env.room path.toString bytes := by
  refine load_of_find hpath ?_
  unfold Files.read at hread
  split at hread
  · rename_i hfind
    rw [hfind, Except.ok.inj hread]
  · cases hread
  · cases hread

/-- **Bad settings give an error of the settings, up to three faults.**  If a file can be read and has
    values in it, of whatever kinds and however deep in one another, then
    (1) reading the settings gives settings, an error of the settings, or one of the three that stray: of
        an infinite bit number, of a number that is too long, or of values too deep in one another;
    (2) it strays exactly if the switches are all right and one of the registers has such a number or
        such a label or doc where it counts, and no register in front of it is refused.
    How deep is too deep is left to the environment. -/
theorem load_strays_iff (hpath : resolve env asked = .ok path)
    (hread : fs.read path.toString = .ok bytes) (hd : documentOf path.toString bytes = .ok d) :
    (∀ e, (load env fs asked).result = .error e → e.isOwn = true ∨ e.IsStray) ∧
    ((∃ e, (load env fs asked).result = .error e ∧ e.isOwn = false) ↔
      ∃ es, entriesOf? d d.root = some es ∧ Strays env.room d es) := by
  rw [load_of_read hpath hread]
  have hstrays := ofBytes_straysIff env.room hd
  exact ⟨fun e he => hstrays.isOwn_or_isStray he, hstrays.exists_iff⟩

/-- A fault in the second of two registers, the first being all right. -/
theorem load_strays_iff_second :
    let bytes := Utf8.encode "bitfields:\n  R:\n    0: x\n  S:\n    .inf: y\n".toList
    let fs : Files := ⟨[(["s"], .file bytes)]⟩
    let env : Environment := ⟨[], [], 9⟩
    (load env fs (some "s")).result = .error .infiniteBit ∧ fs.read "s" = .ok bytes ∧
      ∃ d es, documentOf "s" bytes = .ok d ∧ entriesOf? d d.root = some es ∧ Strays env.room d es := by
  intro bytes fs env
  have hload : (load env fs (some "s")).result = .error .infiniteBit := by decide +kernel
  have hpath : resolve env (some "s") = .ok ⟨"", ["s"]⟩ := by decide
  have hread : fs.read (Path.toString ⟨"", ["s"]⟩) = .ok bytes := by decide
  have hvalues : (documentOf (Path.toString ⟨"", ["s"]⟩) bytes).isOk = true := by decide +kernel
  cases hd : documentOf (Path.toString ⟨"", ["s"]⟩) bytes with
  | error e =>
    rw [hd] at hvalues
    cases hvalues
  | ok d =>
    obtain ⟨-, hiff⟩ := load_strays_iff hpath hread hd
    obtain ⟨es, hes, hstrays⟩ := hiff.1 ⟨_, hload, rfl⟩
    exact ⟨hload, hread, d, es, hd, hes, hstrays⟩

-- a label that is three lists deep, though none of them is written inside another
example :
    let bytes := Utf8.encode "a: &a []\nb: &b [*a]\nbitfields: \x7bR: \x7b0: \x7blabel: [*b]\x7d\x7d\x7d\n".toList
    (load ⟨[], [], 2⟩ ⟨[(["s"], .file bytes)]⟩ (some "s")).result = .error .tooDeep := by
  decide +kernel

/-- **An infinite bit number** is neither passed over nor refused. -/
theorem load_strays_at_infinity :
    let bytes := Utf8.encode "bitfields:\n  R:\n    .inf: x\n".toList
    (documentOf "s" bytes).isOk = true ∧
      (load ⟨[], [], 9⟩ ⟨[(["s"], .file bytes)]⟩ (some "s")).result = .error .infiniteBit ∧
      SettingsError.infiniteBit.isOwn = false := by
  decide +kernel

end Settings

end Respell
