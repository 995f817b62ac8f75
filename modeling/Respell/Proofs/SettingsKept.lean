/-
  Saved settings are read back.

  A settings file may spell settings in many ways, and saving spells them in one.  What was loaded comes
  back all the same.  Of the written form it is assumed only that a mapping of texts, truth values and
  lists is what is read when it was written (`Yaml.readsBack`).

  1. **Tables.**  A table is known by what is found under its keys, so that its entries may stand in
     another order (`Table.get?_of_perm`).

  2. **One by one.**  A label, a bit, a register and the switches are read from what was written for them.
     Here it matters that the label was loaded: a label with an empty doc would come back without it.

  3. **Files.**  Saving writes a file whose text is read again under the same name.

  4. **Switches.**  Each switch of the decorations saves settings that differ in the one truth value, so
     that after any number of them nothing else has changed.
-/
import Respell.Proofs.FileTree
import Respell.Proofs.HeldTrees
import Respell.Proofs.LoadedSettings
import Respell.Proofs.TypedIntegers
import Respell.Proofs.Utf8Bytes
import Respell.Session

namespace Respell

/-! ## Tables -/

namespace Table

variable {κ α : Type} [DecidableEq κ] {k : κ} {a : α} {t t' : Table κ α}

theorem get?_eq_some_iff (h : (t.map Prod.fst).Nodup) : get? k t = some a ↔ (k, a) ∈ t := by
  induction t with
  | nil => simp [get?]
  | cons e t ih =>
    obtain ⟨j, b⟩ := e
    obtain ⟨hj, ht⟩ := List.nodup_cons.1 h
    rw [get?, List.mem_cons, Prod.mk.injEq]
    by_cases hk : j = k
    · subst hk
      have hfresh : (j, a) ∉ t := fun hmem => hj (List.mem_map.2 ⟨_, hmem, rfl⟩)
      rw [if_pos rfl, Option.some.injEq, eq_comm]
      simp [hfresh]
    · rw [if_neg hk, ih ht]
      simp [Ne.symm hk]

/-- **The order of entries** does not matter to what is found. -/
theorem get?_of_perm (h : (t.map Prod.fst).Nodup) (hperm : t'.Perm t) : get? k t' = get? k t := by
  have h' : (t'.map Prod.fst).Nodup := (hperm.map Prod.fst).nodup_iff.2 h
  refine Option.ext fun a => ?_
  rw [get?_eq_some_iff h', get?_eq_some_iff h, hperm.mem_iff]

theorem set_of_fresh (h : k ∉ t.map Prod.fst) : set k a t = t ++ [(k, a)] := by
  induction t with
  | nil => rfl
  | cons e t ih =>
    rw [List.map_cons, List.mem_cons, not_or] at h
    rw [set, if_neg (Ne.symm h.1), ih h.2]
    rfl

theorem foldl_set (h : ((t ++ t').map Prod.fst).Nodup) :
    t'.foldl (fun t e => set e.1 e.2 t) t = t ++ t' := by
  induction t' generalizing t with
  | nil => rw [List.append_nil]; rfl
  | cons e t' ih =>
    have hfresh : e.1 ∉ t.map Prod.fst := by
      rw [List.map_append, List.map_cons] at h
      exact fun hmem => List.disjoint_of_nodup_append h hmem List.mem_cons_self
    rw [List.append_cons] at h ⊢
    rw [List.foldl_cons, set_of_fresh hfresh, ih h]

/-- Entries with distinct keys are the table that they make. -/
theorem ofEntries_eq_self (h : (t.map Prod.fst).Nodup) : ofEntries t = t := foldl_set h

end Table

/-! ## What is written -/

/-- What some results were made from, if they stand in another order. -/
theorem exists_written {ε α β : Type} {f : α → Except ε β} {as : List α} {bs bs' : List β}
    (h : allOf (as.map f) = .ok bs) (hperm : bs'.Perm bs) :
    ∃ as', List.Forall₂ (fun b a => f a = .ok b) bs' as' ∧ as'.Perm as := by
  have heq : List.Forall₂ Eq (bs.map .ok) (as.map f) := by
    rw [List.forall₂_eq_eq_eq]
    exact (eq_map_ok_of_allOf h).symm
  rw [List.forall₂_map_left_iff, List.forall₂_map_right_iff] at heq
  exact List.perm_comp_forall₂ hperm (heq.imp fun _ _ hsame => hsame.symm)

/-- Results from distinct members are distinct, if no two members have the same result. -/
theorem nodup_of_written {ε α β κ ν : Type} {f : α → Except ε β} {key : α → κ} {name : β → ν}
    {as : List α} {bs : List β} (h : allOf (as.map f) = .ok bs) (has : (as.map key).Nodup)
    (hinj : ∀ a a' b b', f a = .ok b → f a' = .ok b' → name b = name b' → key a = key a') :
    (bs.map name).Nodup := by
  -- The induction goes over the members and their results at once.
  have hpair := List.pairwise_map.1 has
  have hmap := eq_map_ok_of_allOf h
  clear h has
  induction as generalizing bs with
  | nil =>
    obtain rfl : bs = [] := List.map_eq_nil_iff.1 hmap.symm
    exact List.nodup_nil
  | cons a as ih =>
    cases bs with
    | nil => exact List.nodup_nil
    | cons b bs =>
      obtain ⟨hb, hbs⟩ := List.cons.inj hmap
      obtain ⟨hne, has⟩ := List.pairwise_cons.1 hpair
      refine List.nodup_cons.2 ⟨fun hmem => ?_, ih has hbs⟩
      obtain ⟨b', hb', hname⟩ := List.mem_map.1 hmem
      have hmade : Except.ok b' ∈ as.map f := hbs ▸ List.mem_map_of_mem hb'
      obtain ⟨a', ha', hf⟩ := List.mem_map.1 hmade
      exact hne a' ha' (hinj a a' b b' hb hf hname.symm)

namespace Settings

open Yaml (Scalar Value Tree)
open Yaml.Document (HoldsEntry)

variable {room : Nat} {d : Yaml.Document} {v : Value}

/-! ## Labels -/

theorem holds_ofString {s : String} :
    d.holds v (ofString s) = true ↔ v = .scalar (.text s.toList) := by
  rw [ofString, Yaml.Document.holds, decide_eq_true_iff]

/-- A text that is not empty counts as something, and is shown as it is. -/
theorem something?_of_text {es : List (Scalar × Value)} {key s : String} (hs : s ≠ "")
    (h : Yaml.Document.get? es key = some (.scalar (.text s.toList))) :
    something? d es key = some (.scalar (.text s.toList)) := by
  have htruthy : d.isTruthy (.scalar (.text s.toList)) = true := by
    have hne : s.toList ≠ [] := fun hnil => hs (String.toList_eq_nil_iff.1 hnil)
    simp [Yaml.Document.isTruthy, Scalar.isTruthy, hne]
  unfold something?
  rw [h]
  dsimp only
  rw [if_pos htruthy]

theorem textOf_text (s : String) : textOf (Scalar.shown (.text s.toList)) = .ok s := by
  show Except.ok (String.ofList s.toList) = .ok s
  rw [String.ofList_toList]

theorem textIn_text (s : String) : textIn room d (.scalar (.text s.toList)) = .ok s := textOf_text s

theorem labelTree_of_doc (label : String) {doc : String} (hdoc : doc ≠ "") :
    labelTree ⟨label, some doc⟩ =
      .mapping [(labelKey.toList, ofString label), (docKey.toList, ofString doc)] := by
  unfold labelTree
  split
  · rename_i hnone
    cases hnone
  · rename_i hempty
    exact absurd (Option.some.inj hempty) hdoc
  · rename_i hsome
    obtain rfl := Option.some.inj hsome
    rfl

theorem labelOf_of_entries {es : List (Scalar × Value)} (hes : d.entries? v = some es) (bit : Int) :
    labelOf room d bit v = labelOfEntries room d bit es := by
  unfold labelOf
  split
  · cases hes
  · rename_i hes'
    rw [Option.some.inj (hes.symm.trans hes')]
  · rename_i hnone
    rw [hes] at hnone
    cases hnone

/-- **A label** is read from what was written for it. -/
theorem labelOf_labelTree {l : BitLabel} (hl : l.IsLoaded) (bit : Int)
    (h : d.holds v (labelTree l) = true) : labelOf room d bit v = .ok l := by
  obtain ⟨label, doc⟩ := l
  cases doc with
  | none =>
    obtain rfl := holds_ofString.1 h
    show Except.ok (⟨String.ofList label.toList, none⟩ : BitLabel) = .ok ⟨label, none⟩
    rw [String.ofList_toList]
  | some doc =>
    obtain ⟨hdoc, hlabel⟩ := hl doc rfl
    rw [labelTree_of_doc label hdoc] at h
    have hkeys : ([(labelKey.toList, ofString label), (docKey.toList, ofString doc)].map
        Prod.fst).Nodup := by
      show [labelKey.toList, docKey.toList].Nodup
      decide
    obtain ⟨es, -, hes, -, -, hfound⟩ := Yaml.Document.exists_entries_of_holds hkeys h
    rw [List.forall_mem_cons, List.forall_mem_singleton] at hfound
    obtain ⟨⟨w, hw, hwholds⟩, x, hx, hxholds⟩ := hfound
    obtain rfl := holds_ofString.1 hwholds
    obtain rfl := holds_ofString.1 hxholds
    rw [String.ofList_toList] at hw hx
    rw [labelOf_of_entries hes, labelOfEntries_eq, something?_of_text hlabel hw,
      something?_of_text hdoc hx]
    dsimp only
    rw [textIn_text, textIn_text]
    rfl

/-! ## Registers -/

theorem entriesOf?_of_entries? {es : List (Scalar × Value)} (h : d.entries? v = some es) :
    entriesOf? d v = some es := by
  unfold entriesOf?
  rw [if_neg, h]
  rintro rfl
  cases h

/-- The bits of a register are read one after another. -/
theorem result_readBits {register : Scalar} {notes : List Note} {done : Register}
    {es : List (Scalar × Value)} {ts : List (Text × Tree)} {bits : Register}
    (hheld : List.Forall₂ (HoldsEntry d) es ts)
    (hwritten : List.Forall₂ (fun t b => bitEntry b = .ok t) ts bits)
    (hloaded : ∀ b ∈ bits, b.2.IsLoaded) :
    (readBits room d register notes done es).result =
      .ok (bits.foldl (fun t e => Table.set e.1 e.2 t) done) := by
  induction hheld generalizing done bits with
  | nil =>
    cases hwritten
    rfl
  | @cons e t es ts hentry _ ih =>
    obtain ⟨key, w⟩ := e
    cases hwritten with
    | @cons _ b _ bits hb hrest =>
      obtain ⟨hb', hbits⟩ := List.forall_mem_cons.1 hloaded
      obtain ⟨name, hname, rfl⟩ := exists_of_map_eq_ok hb
      obtain ⟨hkey, hholds⟩ := hentry
      dsimp only at hkey hholds
      have hbit : bitOf key = .ok (some b.1) := by
        rw [hkey, bitOf, Numeral.integer?_signed hname]
        rfl
      unfold readBits
      rw [hbit]
      dsimp only
      rw [labelOf_labelTree hb' b.1 hholds]
      exact ih hrest hbits

/-- **A register** is read from what was written for it, but for the order of its bits. -/
theorem exists_readBits {r : Register} (hr : r.IsLoaded) {bits : List (Text × Tree)}
    (hbits : allOf ((Register.sorted r).map bitEntry) = .ok bits)
    (h : d.holds v (.mapping bits) = true) :
    ∃ es r', entriesOf? d v = some es ∧ r'.Perm r ∧
      ∀ register notes, (readBits room d register notes [] es).result = .ok r' := by
  have hsorted : (Register.sorted r).Perm r := Register.sorted_perm r
  have hnodup : ((Register.sorted r).map Prod.fst).Nodup :=
    (hsorted.map Prod.fst).nodup_iff.2 hr.nodup
  have hkeys : (bits.map Prod.fst).Nodup := by
    refine nodup_of_written hbits hnodup fun a a' b b' ha ha' hname => ?_
    obtain ⟨t, ht, rfl⟩ := exists_of_map_eq_ok ha
    obtain ⟨t', ht', rfl⟩ := exists_of_map_eq_ok ha'
    obtain rfl : t = t' := hname
    exact Numeral.signed_inj ht ht'
  obtain ⟨es, bits', hes, hheld, hperm, -⟩ := Yaml.Document.exists_entries_of_holds hkeys h
  obtain ⟨r', hwritten, hperm'⟩ := exists_written hbits hperm
  have hr' : r'.Perm r := hperm'.trans hsorted
  refine ⟨es, r', entriesOf?_of_entries? hes, hr', fun register notes => ?_⟩
  rw [result_readBits hheld hwritten fun b hb => hr.values b (hr'.mem_iff.1 hb)]
  exact congrArg Except.ok (Table.ofEntries_eq_self ((hr'.map Prod.fst).nodup_iff.2 hr.nodup))

theorem result_readRegisters (notes : List Note) (done : Registers) {es : List (Scalar × Value)}
    {ts : List (Text × Tree)} {rs : Registers} (hheld : List.Forall₂ (HoldsEntry d) es ts)
    (hwritten : List.Forall₂ (fun t r => registerEntry r = .ok t) ts rs)
    (hloaded : ∀ r ∈ rs, r.2.IsLoaded) :
    ∃ rs' : Registers, List.Forall₂ (fun r' r => r'.1 = r.1 ∧ r'.2.Perm r.2) rs' rs ∧
      (readRegisters room d notes done es).result =
        .ok (rs'.foldl (fun t e => Table.set e.1 e.2 t) done) := by
  induction hheld generalizing notes done rs with
  | nil =>
    cases hwritten
    exact ⟨[], .nil, rfl⟩
  | @cons e t es ts hentry _ ih =>
    obtain ⟨key, w⟩ := e
    cases hwritten with
    | @cons _ r _ rs hr hrest =>
      obtain ⟨hr', hrs⟩ := List.forall_mem_cons.1 hloaded
      obtain ⟨bits, hbits, rfl⟩ := exists_of_map_eq_ok hr
      obtain ⟨hkey, hholds⟩ := hentry
      dsimp only at hkey hholds
      subst hkey
      obtain ⟨es', r', hes', hperm, hread⟩ := exists_readBits hr' hbits hholds
      have hname : textOf (Scalar.shown (.text r.1.toList)) = .ok r.1 := textOf_text r.1
      obtain ⟨rs', hsame, hresult⟩ := ih (readBits room d (.text r.1.toList) notes [] es').state
        (Table.set r.1 r' done) hrest hrs
      refine ⟨(r.1, r') :: rs', .cons ⟨rfl, hperm⟩ hsame, ?_⟩
      unfold readRegisters
      rw [hes']
      dsimp only
      unfold Attempt.andThen
      rw [hread]
      dsimp only
      rw [hname]
      exact hresult

end Settings

/-- What registers tell of a bit, if there is a register of that name. -/
def Registers.lookup (rs : Registers) (name : String) : Option (Int → Option BitLabel) :=
  (Table.get? name rs).map fun r bit => Table.get? bit r

theorem Registers.lookup_eq {rs rs' rs'' : Registers} (hrs : Table.Forall Register.IsLoaded rs)
    (hsame : List.Forall₂ (fun r' r => r'.1 = r.1 ∧ r'.2.Perm r.2) rs' rs'') (hperm : rs''.Perm rs)
    (name : String) : rs'.lookup name = rs.lookup name := by
  have horder : Table.get? name rs'' = Table.get? name rs := Table.get?_of_perm hrs.nodup hperm
  have hloaded : ∀ r ∈ rs'', r.2.IsLoaded := fun r hr => hrs.values r (hperm.mem_iff.1 hr)
  rw [lookup, lookup, ← horder]
  clear horder hperm hrs
  induction hsame with
  | nil => rfl
  | @cons r' r rs' rs hr _ ih =>
    obtain ⟨hr', hrs'⟩ := List.forall_mem_cons.1 hloaded
    obtain ⟨name', bits'⟩ := r'
    obtain ⟨name'', bits⟩ := r
    obtain ⟨rfl, hbits⟩ : name' = name'' ∧ bits'.Perm bits := hr
    rw [Table.get?, Table.get?]
    by_cases hname : name' = name
    · rw [if_pos hname, if_pos hname]
      exact congrArg some (funext fun bit => Table.get?_of_perm hr'.nodup hbits)
    · rw [if_neg hname, if_neg hname]
      exact ih hrs'

namespace Settings

open Yaml (Scalar Value Tree)
open Yaml.Document (HoldsEntry)

variable {room : Nat} {d : Yaml.Document} {v : Value}

/-- **Registers** are read from what was written for them, but for the order of the names. -/
theorem exists_readRegisters {rs : Registers} (hrs : Table.Forall Register.IsLoaded rs)
    {ts : List (Text × Tree)} (hts : allOf (rs.map registerEntry) = .ok ts)
    (h : d.holds v (.mapping ts) = true) :
    ∃ es rs', entriesOf? d v = some es ∧ (∀ name, rs'.lookup name = rs.lookup name) ∧
      (readRegisters room d [] [] es).result = .ok rs' := by
  have hkeys : (ts.map Prod.fst).Nodup := by
    refine nodup_of_written hts hrs.nodup fun a a' b b' ha ha' hname => ?_
    obtain ⟨t, -, rfl⟩ := exists_of_map_eq_ok ha
    obtain ⟨t', -, rfl⟩ := exists_of_map_eq_ok ha'
    exact String.toList_inj.1 hname
  obtain ⟨es, ts', hes, hheld, hperm, -⟩ := Yaml.Document.exists_entries_of_holds hkeys h
  obtain ⟨rs'', hwritten, hperm'⟩ := exists_written hts hperm
  obtain ⟨rs', hsame, hresult⟩ := result_readRegisters [] [] hheld hwritten
    fun r hr => hrs.values r (hperm'.mem_iff.1 hr)
  have hnames : rs'.map Prod.fst = rs''.map Prod.fst := by
    clear hwritten hperm' hresult
    induction hsame with
    | nil => rfl
    | cons hr _ ih => rw [List.map_cons, List.map_cons, hr.1, ih]
  have hnodup : (rs'.map Prod.fst).Nodup := by
    rw [hnames]
    exact (hperm'.map Prod.fst).nodup_iff.2 hrs.nodup
  refine ⟨es, rs', entriesOf?_of_entries? hes, Registers.lookup_eq hrs hsame hperm', ?_⟩
  rw [hresult]
  exact congrArg Except.ok (Table.ofEntries_eq_self hnodup)

/-! ## Settings -/

/-- Whether two settings are the same, but for the order of registers and bits. -/
structure Alike (s s' : Settings) : Prop where
  keywords : s'.keywords = s.keywords
  dualDisplay : s'.dualDisplay = s.dualDisplay
  decorations : s'.decorations = s.decorations
  registers : ∀ name, s'.registers.lookup name = s.registers.lookup name

/-- The entries that are always written. -/
def switchEntries (s : Settings) : List (Text × Tree) :=
  [(keywordsKey.toList, .list (s.keywords.map ofString)),
   (dualDisplayKey.toList, .bool s.dualDisplay),
   (decorationsKey.toList, .bool s.decorations)]

theorem toEntries_eq (s : Settings) :
    s.toEntries = (registersEntry s.registers).map (switchEntries s ++ ·) := rfl

theorem keywordsOf_ofString {keywords : List String}
    (h : d.holds v (.list (keywords.map ofString)) = true) : keywordsOf d v = .ok keywords := by
  obtain ⟨vs, hvs, hheld⟩ := Yaml.Document.exists_list_of_holds h
  have htexts : vs = keywords.map fun s => .scalar (.text s.toList) := by
    rw [List.forall₂_map_right_iff] at hheld
    clear h hvs
    induction hheld with
    | nil => rfl
    | cons hs _ ih => rw [List.map_cons, ← ih, holds_ofString.1 hs]
  have hall : (vs.all fun v => (text? v).isSome) = true := by
    rw [htexts]
    simp [text?]
  have hmap : vs.filterMap text? = keywords := by
    rw [htexts, List.filterMap_map]
    have hsome : text? ∘ (fun s : String => Value.scalar (.text s.toList)) = some := by
      funext s
      show some (String.ofList s.toList) = some s
      rw [String.ofList_toList]
    rw [hsome, List.filterMap_some]
  unfold keywordsOf
  rw [hvs]
  split
  · cases hvs
  · rename_i hlist
    obtain rfl := Yaml.Collection.list.inj (Option.some.inj hlist)
    rw [if_pos hall, hmap]
  · rename_i hpairs
    cases hpairs
  · rename_i hlist _
    exact absurd rfl (hlist vs)

theorem boolOf_eq {es : List (Scalar × Value)} {key : String} {b : Bool} (usual : Bool)
    (h : ∃ w, Yaml.Document.get? es key = some w ∧ d.holds w (.bool b) = true) :
    boolOf es key usual = .ok b := by
  obtain ⟨w, hw, hholds⟩ := h
  rw [Yaml.Document.holds, decide_eq_true_iff] at hholds
  subst hholds
  rw [boolOf, hw]

/-- The switches are read from what was written for them. -/
theorem readSwitches_switchEntries {es : List (Scalar × Value)} (s : Settings)
    (hfound : ∀ t ∈ switchEntries s,
      ∃ w, Yaml.Document.get? es (String.ofList t.1) = some w ∧ d.holds w t.2 = true) :
    readSwitches d es = .ok { s with registers := [] } := by
  simp only [switchEntries, List.forall_mem_cons, String.ofList_toList] at hfound
  obtain ⟨⟨w, hw, hkeywords⟩, hdual, hdecorations, -⟩ := hfound
  rw [readSwitches_eq, hw, boolOf_eq _ hdual, boolOf_eq _ hdecorations]
  dsimp only
  rw [keywordsOf_ofString hkeywords]
  rfl

/-- **Settings** that were loaded are read from what was written for them. -/
theorem exists_ofEntries {s : Settings} (hs : s.IsLoaded) {ts : List (Text × Tree)}
    (hts : s.toEntries = .ok ts) (h : d.holds v (.mapping ts) = true) :
    ∃ es s', entriesOf? d v = some es ∧ (ofEntries room d es).result = .ok s' ∧ s.Alike s' := by
  rw [toEntries_eq] at hts
  obtain ⟨registers, hregisters, rfl⟩ := exists_of_map_eq_ok hts
  rw [registersEntry] at hregisters
  split at hregisters
  · -- Without registers nothing is written for them, and their key is not found.
    rename_i hnone
    obtain rfl := Except.ok.inj hregisters
    have hkeys : ((switchEntries s ++ []).map Prod.fst).Nodup := by
      show [keywordsKey.toList, dualDisplayKey.toList, decorationsKey.toList].Nodup
      decide
    have hfresh : registersKey.toList ∉ (switchEntries s ++ []).map Prod.fst := by
      show registersKey.toList ∉ [keywordsKey.toList, dualDisplayKey.toList, decorationsKey.toList]
      decide
    obtain ⟨es, ts', hes, hheld, hperm, hfound⟩ := Yaml.Document.exists_entries_of_holds hkeys h
    refine ⟨es, { s with registers := [] }, entriesOf?_of_entries? hes, ?_, rfl, rfl, rfl, ?_⟩
    · unfold ofEntries
      rw [readSwitches_switchEntries s fun t ht => hfound t (List.mem_append_left _ ht),
        Yaml.Document.get?_eq_none hheld hperm hfresh]
      rfl
    · intro name
      rw [List.isEmpty_iff.1 hnone]
  · obtain ⟨entries, hentries, rfl⟩ := exists_of_map_eq_ok hregisters
    have hkeys : ((switchEntries s ++ [(registersKey.toList, Tree.mapping entries)]).map
        Prod.fst).Nodup := by
      show [keywordsKey.toList, dualDisplayKey.toList, decorationsKey.toList,
        registersKey.toList].Nodup
      decide
    obtain ⟨es, ts', hes, -, -, hfound⟩ := Yaml.Document.exists_entries_of_holds hkeys h
    obtain ⟨w, hw, hholds⟩ := hfound _ (List.mem_append_right _ List.mem_cons_self)
    rw [String.ofList_toList] at hw
    obtain ⟨bits, rs, hbits, hsame, hread⟩ := exists_readRegisters hs hentries hholds
    refine ⟨es, { s with registers := rs }, entriesOf?_of_entries? hes, ?_, rfl, rfl, rfl, hsame⟩
    unfold ofEntries
    rw [readSwitches_switchEntries s fun t ht => hfound t (List.mem_append_left _ ht), hw,
      Option.map_some, hbits]
    dsimp only
    unfold Attempt.andThen
    rw [hread]
    rfl

/-! ## Files -/

/-- Whether what settings make is held by what is read of it. -/
def readsBack (s : Settings) : Bool :=
  match s.toEntries with
  | .ok es => Yaml.readsBack es
  | .error _ => true

variable {env : Environment} {fs : Files} {asked : Option String} {s : Settings} {path : Path}

theorem find_store {t : Text} (h : (store fs path t).result = .ok ()) :
    (store fs path t).state.find path.toString = .ok (.file (Utf8.encode t)) := by
  unfold store at h ⊢
  cases hparents : fs.makeDirectories path.parent with
  | error e =>
    rw [hparents] at h
    cases h
  | ok fs' =>
    rw [hparents] at h
    dsimp only at h ⊢
    cases hwrite : fs'.write path.toString (Utf8.encode t) with
    | error e =>
      rw [hwrite] at h
      cases h
    | ok fs'' => exact Files.find_write hwrite

/-- **What saving leaves behind**: a file with the written settings at their path. -/
theorem exists_of_save (h : (save env fs asked s).result = .ok path) :
    ∃ es, s.toEntries = .ok es ∧ resolve env asked = .ok path ∧
      (save env fs asked s).state.find path.toString =
        .ok (.file (Utf8.encode (Yaml.write es))) := by
  unfold save at h ⊢
  cases hpath : resolve env asked with
  | error e =>
    rw [hpath] at h
    cases h
  | ok path' =>
    rw [hpath] at h
    dsimp only at h ⊢
    cases hes : s.toEntries with
    | error e =>
      rw [hes] at h
      cases h
    | ok es =>
      rw [hes] at h
      dsimp only at h ⊢
      cases hstored : (store fs path' (Yaml.write es)).result with
      | error e =>
        rw [hstored] at h
        cases h
      | ok _ =>
        rw [hstored] at h
        obtain rfl := Except.ok.inj h
        exact ⟨es, rfl, rfl, find_store hstored⟩

theorem load_of_find {bytes : List UInt8} (hpath : resolve env asked = .ok path)
    (hfind : fs.find path.toString = .ok (.file bytes)) :
    load env fs asked = ofBytes env.room path.toString bytes := by
  have hthere : isThere fs path.toString = .ok true := by
    rw [isThere, hfind]
  have hread : fs.read path.toString = .ok bytes := by
    rw [Files.read, hfind]
  unfold load
  rw [hpath]
  dsimp only
  rw [hthere]
  dsimp only
  rw [hread]

/-- **Settings that were loaded come back** when they were saved. -/
theorem exists_load_save (hs : s.IsLoaded) (hback : s.readsBack = true)
    (h : (save env fs asked s).result = .ok path) :
    ∃ s', (load env (save env fs asked s).state asked).result = .ok s' ∧ s.Alike s' := by
  obtain ⟨es, hes, hpath, hfind⟩ := exists_of_save h
  rw [readsBack, hes] at hback
  obtain ⟨d, hread, hholds⟩ := Yaml.readsBack_iff.1 hback
  obtain ⟨entries, s', hentries, hresult, halike⟩ := exists_ofEntries hs hes hholds
  refine ⟨s', ?_, halike⟩
  have hdocument : documentOf path.toString (Utf8.encode (Yaml.write es)) = .ok d := by
    rw [documentOf, Utf8.decode_encode]
    dsimp only
    rw [hread]
  rw [load_of_find hpath hfind, ofBytes, hdocument]
  dsimp only
  rw [hentries]
  exact hresult

end Settings

/-! ## Switches -/

namespace Session

/-- The session and the files after the decorations have been switched a number of times, if they could
    be each time. -/
def toggleTimes (env : Environment) : Nat → Session → Files → Except SettingsError (Session × Files)
  | 0, s, fs => .ok (s, fs)
  | n + 1, s, fs =>
    (s.toggleDecorations env fs).result.bind fun _ =>
      toggleTimes env n (s.toggleDecorations env fs).state.1 (s.toggleDecorations env fs).state.2

variable {env : Environment} {fs fs' : Files} {session session' : Session} {on : Bool}

/-- Whether the settings file holds what a session has: some settings, but for the decorations. -/
def Keeps (env : Environment) (s : Settings) (session : Session) (fs : Files) : Prop :=
  session.settings = { s with decorations := session.decorations } ∧
    ∃ s', (Settings.load env fs session.settingsPath).result = .ok s' ∧
      Settings.Alike { s with decorations := session.decorations } s'

/-- **One switch** leaves the session and the file of the settings with the decorations switched. -/
theorem Keeps.toggle {s : Settings} (hs : s.IsLoaded)
    (hback : ∀ on, Settings.readsBack { s with decorations := on } = true)
    (hkeeps : Keeps env s session fs)
    (h : (session.toggleDecorations env fs).result = .ok on) :
    Keeps env s (session.toggleDecorations env fs).state.1 (session.toggleDecorations env fs).state.2 ∧
      (session.toggleDecorations env fs).state.1.decorations = !session.decorations ∧
      (session.toggleDecorations env fs).state.1.settingsPath = session.settingsPath := by
  obtain ⟨hsettings, -⟩ := hkeeps
  have hnext : { session.settings with decorations := !session.decorations } =
      { s with decorations := !session.decorations } := by
    rw [hsettings]
  unfold toggleDecorations at h ⊢
  dsimp only at h ⊢
  rw [hnext] at h ⊢
  split at h
  · cases h
  · rename_i path hsaved
    have hloaded : Settings.IsLoaded { s with decorations := !session.decorations } := hs
    exact ⟨⟨hnext, Settings.exists_load_save hloaded (hback _) hsaved⟩, rfl, rfl⟩

theorem Keeps.toggleTimes {s : Settings} (hs : s.IsLoaded)
    (hback : ∀ on, Settings.readsBack { s with decorations := on } = true) {n : Nat}
    (hkeeps : Keeps env s session fs)
    (h : Session.toggleTimes env n session fs = .ok (session', fs')) :
    Keeps env s session' fs' ∧ session'.decorations = Nat.iterate not n session.decorations ∧
      session'.settingsPath = session.settingsPath := by
  induction n generalizing session fs with
  | zero =>
    obtain ⟨rfl, rfl⟩ := Prod.mk.inj (Except.ok.inj h)
    exact ⟨hkeeps, rfl, rfl⟩
  | succ n ih =>
    obtain ⟨on, hon, h⟩ := exists_of_bind_eq_ok h
    obtain ⟨hkeeps', hswitched, hpath⟩ := hkeeps.toggle hs hback hon
    obtain ⟨hkept, hdecorations, hpath'⟩ := ih hkeeps' h
    refine ⟨hkept, ?_, hpath'.trans hpath⟩
    rw [hdecorations, hswitched]
    rfl

end Session

variable {env : Environment} {fs : Files} {asked : Option String} {s : Settings}

/-- **Saving loses nothing that was loaded.**  Settings from any file come back when they were saved
    under any path, and after a session that began with them has switched the decorations any number of
    times, they come back with nothing changed but the decorations. -/
theorem Settings.loaded_settings_survive (hload : (load env fs asked).result = .ok s) :
    (∀ env' fs' asked' path, s.readsBack = true → (save env' fs' asked' s).result = .ok path →
      ∃ s', (load env' (save env' fs' asked' s).state asked').result = .ok s' ∧ s.Alike s') ∧
    ∀ n session fs', (∀ on, readsBack { s with decorations := on } = true) →
      Session.toggleTimes env n (Session.start s asked) fs = .ok (session, fs') →
      ∃ s', (load env fs' asked).result = .ok s' ∧
        Alike { s with decorations := Nat.iterate not n s.decorations } s' := by
  have hs : s.IsLoaded := isLoaded_load hload
  refine ⟨fun env' fs' asked' path hback hsave => exists_load_save hs hback hsave, ?_⟩
  intro n session fs' hback htoggles
  have hstart : Session.Keeps env s (Session.start s asked) fs :=
    ⟨rfl, s, hload, rfl, rfl, rfl, fun _ => rfl⟩
  obtain ⟨⟨-, s', hs', halike⟩, hdecorations, hpath⟩ := hstart.toggleTimes hs hback htoggles
  rw [hdecorations] at halike
  rw [hpath] at hs'
  exact ⟨s', hs', halike⟩

/-- A file with an empty label, a truth value for a doc, a register without bits and a name that is a
    number.  It is spelled anew when it is saved, here after three switches, and another switch in it stays
    off. -/
theorem Settings.loaded_settings_survive_respelled :
    let text := "dualDisplay: false\nbitfields:\n  REG:\n    0: \x7blabel: '', doc: on\x7d\n    '-1': x\n  7:\n"
    let fs : Files := ⟨[(["s"], .file (Utf8.encode text.toList))]⟩
    let env : Environment := ⟨[], [], 9⟩
    let s : Settings := ⟨Guard.defaultKeywords, false, true,
      [("REG", [(0, ⟨"bit0", some "True"⟩), (-1, ⟨"x", none⟩)]), ("7", [])]⟩
    (load env fs (some "s")).result = .ok s ∧
      (∃ s', (load env (save env fs (some "d/s") s).state (some "d/s")).result = .ok s' ∧ s.Alike s') ∧
      ∃ session fs', Session.toggleTimes env 3 (Session.start s (some "s")) fs = .ok (session, fs') ∧
        ∃ s', (load env fs' (some "s")).result = .ok s' ∧ Alike { s with decorations := false } s' := by
  intro text fs env s
  have hload : (load env fs (some "s")).result = .ok s := by decide +kernel
  have hback : ∀ on, readsBack { s with decorations := on } = true := by decide +kernel
  have hsave : (save env fs (some "d/s") s).result = .ok ⟨"", ["d", "s"]⟩ := by decide +kernel
  obtain ⟨hsaved, htoggled⟩ := loaded_settings_survive hload
  have htoggles : (Session.toggleTimes env 3 (Session.start s (some "s")) fs).isOk = true := by
    decide +kernel
  cases hend : Session.toggleTimes env 3 (Session.start s (some "s")) fs with
  | error e =>
    rw [hend] at htoggles
    cases htoggles
  | ok x =>
    refine ⟨hload, hsaved _ _ _ _ (hback true) hsave, x.1, x.2, rfl, ?_⟩
    exact htoggled 3 x.1 x.2 hback hend

end Respell
