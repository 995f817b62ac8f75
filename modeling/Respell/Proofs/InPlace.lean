/-
  What a conversion leaves in its file.

  1. **Work** (`Console.Carries`).  A job in place reads its file, makes a new text and writes it.  If the
     text cannot be made nothing has happened but that the log has grown.

  2. **Jobs.**  All literals, those that are chosen, or the first one: a job that finishes has left the
     rewritten text (`Job.leaves`).

  3. **Runs** (`conversion_in_place`).  Of the bytes that were in the file only those of the converted
     literals change, and parts that are no text.  A log that is kept in the file itself counts as what
     was in it.
-/
import Respell.Proofs.FileLog
import Respell.Proofs.Rewritten

namespace Respell.CommandLine

open Literal (Spelling spellings)
open Numeral (IsNumeral worth respelling)

namespace Console

variable {file : String} {c c' : Console} {old : List UInt8}

/-! ## Work -/

/-- Whether work leaves a text in a file that was there, or fails because the text cannot be made, when
    nothing has happened to the file but that the log may have grown in it. -/
def Carries (c : Console) (file : String) (made : Except RespellingError Text) (w : Work) : Prop :=
  match made with
  | .ok u => w.result = .ok () ∧ w.state.files.read file = .ok (Utf8.encode u)
  | .error e => w.result = .error (.ofRespelling e) ∧ Logged file c w.state

theorem Carries.of_logged {made : Except RespellingError Text} {w : Work} (h : Logged file c c')
    (h' : c'.Carries file made w) : c.Carries file made w := by
  cases made with
  | ok u => exact h'
  | error e => exact ⟨h'.1, h.trans h'.2⟩

theorem Carries.of_ok {made : Except RespellingError Text} {w : Work} (h : c.Carries file made w)
    (hok : w.result = .ok ()) : ∃ u, made = .ok u ∧ w.state.files.read file = .ok (Utf8.encode u) := by
  cases made with
  | ok u => exact ⟨u, rfl, h.2⟩
  | error e =>
    rw [h.1] at hok
    cases hok

theorem carries_writeResult (hold : c.files.read file = .ok old) (u : Text) :
    c.Carries file (.ok u) (c.writeResult file u true) := by
  obtain ⟨fs, hfs⟩ := Files.exists_write hold (Utf8.encode u)
  have hwork : c.writeResult file u true = .done { c with files := fs } () := by
    rw [writeResult, if_pos rfl, hfs]
  rw [hwork]
  exact ⟨rfl, Files.read_write hfs⟩

theorem carries_applyEdits (hold : c.files.read file = .ok old) (t : Text) (es : List Edit)
    (what : String) :
    c.Carries file ((Edit.applyAll t es).mapError .edit) (c.applyEdits file t es what true) := by
  unfold applyEdits
  dsimp only
  generalize hnotes : [jobNote ("Converting " ++ toString es.length ++ " " ++ what ++ " in " ++ file)] =
    notes
  have hlogged : Logged file c (c.note notes) := logged_note file c notes
  obtain ⟨added, hread, -⟩ := hlogged.read old hold
  cases Edit.applyAll t es with
  | error e => exact ⟨rfl, hlogged⟩
  | ok u => exact (carries_writeResult hread u).of_logged hlogged

/-- **A request in place** leaves what its policy makes of the text. -/
theorem carries_respell (hold : c.files.read file = .ok old) {g : Guard} {t : Text} {r : Request}
    {p : Policy} (hp : r.policy t none = .ok (some p)) :
    c.Carries file (p.respelledText g t) (c.respell g file t r true) := by
  unfold respell Policy.respelledText madeText
  rw [hp]
  dsimp only
  have hlogged : Logged file c (c.note (p.notes g t)) := logged_note file c _
  obtain ⟨added, hread, -⟩ := hlogged.read old hold
  cases p.edits g t with
  | error e => exact ⟨rfl, hlogged⟩
  | ok es => exact (carries_applyEdits hread t es "occurrences").of_logged hlogged

theorem read_of_files (hold : c.files.read file = .ok old) :
    c.read file = .ok (Utf8.decodeLossy old) := by
  rw [read, hold]

/-- **The job for all literals** leaves the text with every literal in the base. -/
theorem carries_cycle (hold : c.files.read file = .ok old) (b : Base) :
    c.Carries file (cycleText b (Utf8.decodeLossy old)) (c.cycle file (.value b) true) := by
  unfold cycle
  rw [read_of_files hold]
  show c.Carries file (cycleText b (Utf8.decodeLossy old))
    (c.withValue ((cycleEdits b (Utf8.decodeLossy old)).mapError .numeral) fun es =>
      c.applyEdits file (Utf8.decodeLossy old) es "numbers" true)
  cases hes : cycleEdits b (Utf8.decodeLossy old) with
  | error e =>
    rw [cycleText_of_error hes]
    exact ⟨rfl, .refl file c⟩
  | ok es =>
    rw [cycleText_of_ok hes]
    exact carries_applyEdits hold _ es "numbers"

/-! ## Jobs -/

/-- The policy for all literals that are like a given one. -/
def policyForAll (b : Base) (equivalent : Bool) (literal : String) (value : Nat) : Policy :=
  ⟨b, .all, if equivalent then .value else .spelling,
    ⟨literal.toList, 0, literal.toList.length, value⟩⟩

variable {config : Option (Given String)} {settings : Settings} {literal : Given String} {l : String}
  {base : Given Base} {all equivalent : Bool} {start : Option (Given Int)} {value : Nat} {t : Text}

theorem literalValue_eq_ok_iff {s : Text} :
    literalValue s = .ok value ↔ Numeral.read s = .ok (some value) := by
  unfold literalValue
  split
  · rename_i h
    simp [h]
  · rename_i h
    simp [h]
  · rename_i h
    simp [h]

/-- What remains of the job for all literals like a given one when everything has been read. -/
theorem replace_all_eq (hsettings : (c.loadSettings config).result = .ok settings)
    (hread : (c.loadSettings config).state.read file = .ok t)
    (hvalue : Numeral.read l.toList = .ok (some value)) :
    c.replace config file (.value l) base true equivalent start true =
      (c.loadSettings config).state.withValue (need .noBase base) fun b =>
        (c.loadSettings config).state.respell (.ofKeywords settings.keywords) file t
          ⟨value, b.code, l.toList, none, true, equivalent⟩ true := by
  unfold replace Attempt.andThen
  rw [hsettings]
  dsimp only
  rw [hread]
  show withValue _ (literalValue l.toList) _ = _
  rw [literalValue_eq_ok_iff.2 hvalue]
  rfl

/-- What remains of the job for the first literal of a spelling when everything has been read. -/
theorem replace_first_eq (hsettings : (c.loadSettings config).result = .ok settings)
    (hread : (c.loadSettings config).state.read file = .ok t)
    (hvalue : Numeral.read l.toList = .ok (some value)) :
    c.replace config file (.value l) base false equivalent none true =
      (c.loadSettings config).state.withValue (spanOf t l.toList none) fun
        | none =>
          ((c.loadSettings config).state.note [jobNote ("No occurrence of " ++ l ++ " in " ++
            file)]).writeResult file t true
        | some span =>
          (c.loadSettings config).state.withValue (need .noBase base) fun b =>
            (c.loadSettings config).state.respell (.ofKeywords settings.keywords) file t
              ⟨value, b.code, l.toList, some span, false, equivalent⟩ true := by
  unfold replace Attempt.andThen
  rw [hsettings]
  dsimp only
  rw [hread]
  show withValue _ (literalValue l.toList) _ = _
  rw [literalValue_eq_ok_iff.2 hvalue]
  rfl

/-- **The job for all literals like a given one** leaves what their policy makes of the text, under the
    guard of the settings. -/
theorem carries_replace_all (hsettings : (c.loadSettings config).result = .ok settings)
    (hold : (c.loadSettings config).state.files.read file = .ok old)
    (hvalue : Numeral.read l.toList = .ok (some value)) (b : Base) (equivalent : Bool)
    (start : Option (Given Int)) :
    c.Carries file
      ((policyForAll b equivalent l value).respelledText (.ofKeywords settings.keywords)
        (Utf8.decodeLossy old))
      (c.replace config file (.value l) (.value b) true equivalent start true) := by
  rw [replace_all_eq hsettings (read_of_files hold) hvalue]
  exact Carries.of_logged (logged_loadSettings file c config)
    (carries_respell hold (Request.policy_all b value l.toList none equivalent _ none))

/-- What the job for the first literal of a spelling leaves if it succeeds. -/
theorem exists_of_replace_first (hsettings : (c.loadSettings config).result = .ok settings)
    (hold : (c.loadSettings config).state.files.read file = .ok old)
    (hvalue : Numeral.read l.toList = .ok (some value))
    (h : (c.replace config file (.value l) base false equivalent none true).result = .ok ()) :
    ∃ u, (c.replace config file (.value l) base false equivalent none true).state.files.read file =
        .ok (Utf8.encode u) ∧
      Rewritten (fun m => (spellings (Utf8.decodeLossy old)).find? (·.text = l.toList) = some m)
        (fun s r => ∃ b, base = .value b ∧ respelling b s = .ok r) (Utf8.decodeLossy old) u := by
  rw [replace_first_eq hsettings (read_of_files hold) hvalue] at h ⊢
  generalize (c.loadSettings config).state = c' at hold h ⊢
  generalize Utf8.decodeLossy old = t at h ⊢
  cases hfirst : Literal.firstSpelled l.toList (Literal.readAll t) with
  | error e =>
    simp only [spanOf, hfirst] at h
    cases h
  | ok first? =>
    simp only [spanOf, hfirst] at h ⊢
    cases first? with
    | none =>
      -- Nothing is found, and the text is written as it was read.
      obtain ⟨added, hread', -⟩ := (logged_note file c' _).read old hold
      exact ⟨t, (carries_writeResult hread' t).2, rewritten_of_none hfirst⟩
    | some m =>
      cases base with
      | nothing => cases h
      | value b =>
        have hpolicy := Request.policy_span b value l.toList m.start m.stop equivalent t none
        obtain ⟨u, hu, hwritten⟩ := (carries_respell hold hpolicy).of_ok h
        obtain ⟨es, hes, hu⟩ := exists_of_madeText hu
        obtain ⟨r, hr, rfl⟩ := exists_of_map_eq_ok hes
        have hnew : ∃ b', Given.value b = .value b' ∧ respelling b' l.toList = .ok r :=
          ⟨b, rfl, by rw [respelling, Numeral.worth_of_read hvalue]; exact hr⟩
        exact ⟨u, hwritten, rewritten_of_first hnew hfirst hu⟩

theorem exists_of_withValue {α : Type} {x : Except Failure α} {f : α → Work}
    (h : (c.withValue x f).result = .ok ()) : ∃ a, x = .ok a ∧ (f a).result = .ok () := by
  cases x with
  | error e => cases h
  | ok a => exact ⟨a, rfl, h⟩

/-- A job for a given literal that succeeds has found everything it needs. -/
theorem exists_of_replace {inPlace : Bool}
    (h : (c.replace config file literal base all equivalent start inPlace).result = .ok ()) :
    ∃ settings l value, (c.loadSettings config).result = .ok settings ∧ literal = .value l ∧
      Numeral.read l.toList = .ok (some value) := by
  unfold replace Attempt.andThen at h
  split at h
  · rename_i settings hsettings
    obtain ⟨t, -, h⟩ := exists_of_withValue h
    obtain ⟨l, hl, h⟩ := exists_of_withValue h
    obtain ⟨value, hvalue, -⟩ := exists_of_withValue h
    cases literal with
    | nothing => cases hl
    | value l' =>
      obtain rfl : l' = l := Except.ok.inj hl
      exact ⟨settings, l', value, hsettings, rfl, literalValue_eq_ok_iff.1 hvalue⟩
  · cases h

end Console

/-- Whether a job converts literals of a file in place, and to which base: all of them, all like a given
    one, or the first of a spelling. -/
def Job.ConvertsInPlace (j : Job) (file : String) (base : Given Base) : Prop :=
  match j with
  | .replace file' _ base' all _ start inPlace =>
    file' = file ∧ base' = base ∧ (all = true ∨ start = none) ∧ inPlace = true
  | .cycle file' base' inPlace => file' = file ∧ base' = base ∧ inPlace = true
  | _ => False

/-- Whether a job converts a literal of a text, by its spelling, under a guard. -/
def Job.Converts (j : Job) (g : Guard) (t : Text) (s : Spelling) : Prop :=
  match j with
  | .replace _ (.value l) _ true equivalent _ _ =>
    (if equivalent then worth s.text = worth l.toList else s.text = l.toList) ∧
      g.allows t s.start = true
  | .replace _ (.value l) _ false _ _ _ => (spellings t).find? (·.text = l.toList) = some s
  | .cycle _ _ _ => True
  | _ => False

/-- The literals that the policy of a job chooses are those that the job converts. -/
theorem Console.chooses_iff {b : Base} {equivalent : Bool} {l : String} {value : Nat} {g : Guard} {t : Text}
    {s : Spelling} (hvalue : Numeral.read l.toList = .ok (some value)) :
    (policyForAll b equivalent l value).Chooses g t s ↔
      (if equivalent then worth s.text = worth l.toList else s.text = l.toList) ∧
        g.allows t s.start = true := by
  have hworth : worth l.toList = .ok value := Numeral.worth_of_read hvalue
  unfold Policy.Chooses Policy.isAbout policyForAll
  cases equivalent with
  | true =>
    simp only [if_true, decide_eq_true_iff, hworth]
    constructor
    · rintro ⟨n, hn, rfl, hallows⟩
      exact ⟨hn, hallows⟩
    · rintro ⟨hn, hallows⟩
      exact ⟨value, hn, rfl, hallows⟩
  | false =>
    simp only [Bool.false_eq_true, if_false, decide_eq_true_iff]
    constructor
    · rintro ⟨-, -, hsame, hallows⟩
      exact ⟨hsame, hallows⟩
    · rintro ⟨hsame, hallows⟩
      exact ⟨value, by rw [hsame, hworth], hsame, hallows⟩

namespace Console

variable {file : String} {base : Given Base} {c : Console} {config : Option (Given String)}
  {literal : Given String} {all equivalent : Bool} {start : Option (Given Int)} {old : List UInt8}

/-- Whether work has left in a file what a job makes of the text that was there, with some literals written
    anew in a base.  The log may have grown in the file before, and the guard is that of the settings, if
    they can be read. -/
def Leaves (c : Console) (config : Option (Given String)) (file : String) (old : List UInt8)
    (base : Given Base) (j : Job) (w : Work) : Prop :=
  ∃ added g u, (¬ c.LogsTo file → added = []) ∧
    (∀ settings, (c.loadSettings config).result = .ok settings →
      g = Guard.ofKeywords settings.keywords) ∧
    w.state.files.read file = .ok (Utf8.encode u) ∧
    Rewritten (j.Converts g (Utf8.decodeLossy (old ++ added)))
      (fun s r => ∃ b, base = .value b ∧ respelling b s = .ok r)
      (Utf8.decodeLossy (old ++ added)) u

theorem leaves_replace (hold : c.files.read file = .ok old) (hreach : all = true ∨ start = none)
    (h : (c.replace config file literal base all equivalent start true).result = .ok ()) :
    c.Leaves config file old base (.replace file literal base all equivalent start true)
      (c.replace config file literal base all equivalent start true) := by
  obtain ⟨settings, l, value, hsettings, rfl, hvalue⟩ := exists_of_replace h
  obtain ⟨added, hread, hnone⟩ := (logged_loadSettings file c config).read old hold
  have hguard : ∀ settings', (c.loadSettings config).result = .ok settings' →
      Guard.ofKeywords settings.keywords = Guard.ofKeywords settings'.keywords := by
    intro settings' hsettings'
    obtain rfl : settings = settings' := Except.ok.inj (hsettings.symm.trans hsettings')
    rfl
  cases all with
  | true =>
    cases base with
    | nothing =>
      rw [replace_all_eq hsettings (read_of_files hread) hvalue] at h
      cases h
    | value b =>
      obtain ⟨u, hu, hwritten⟩ :=
        (carries_replace_all hsettings hread hvalue b equivalent start).of_ok h
      refine ⟨added, _, u, hnone, hguard, hwritten, (rewritten_of_policy rfl hu).imp ?_ ?_⟩
      · exact fun s => chooses_iff hvalue
      · exact fun s r hr => ⟨b, rfl, hr⟩
  | false =>
    obtain rfl : start = none := hreach.resolve_left Bool.false_ne_true
    obtain ⟨u, hwritten, hu⟩ := exists_of_replace_first hsettings hread hvalue h
    exact ⟨added, _, u, hnone, hguard, hwritten, hu⟩

theorem leaves_cycle (config : Option (Given String)) (hold : c.files.read file = .ok old)
    (h : (c.cycle file base true).result = .ok ()) :
    c.Leaves config file old base (.cycle file base true) (c.cycle file base true) := by
  cases base with
  | nothing =>
    obtain ⟨t, -, hrest⟩ := exists_of_withValue h
    obtain ⟨b, hb, -⟩ := exists_of_withValue hrest
    cases hb
  | value b =>
    obtain ⟨u, hu, hwritten⟩ := (carries_cycle hold b).of_ok h
    -- The job asks no guard, so that the one of the settings will do.
    have hguard : ∃ g, ∀ settings, (c.loadSettings config).result = .ok settings →
        g = Guard.ofKeywords settings.keywords := by
      cases (c.loadSettings config).result with
      | error e => exact ⟨.default, nofun⟩
      | ok settings => exact ⟨.ofKeywords settings.keywords, fun _ hsame => by rw [Except.ok.inj hsame]⟩
    obtain ⟨g, hg⟩ := hguard
    refine ⟨[], g, u, fun _ => rfl, hg, hwritten, ?_⟩
    rw [List.append_nil]
    exact (rewritten_of_cycleText hu).imp (fun _ => Iff.rfl) fun s r hr => ⟨b, rfl, hr⟩

end Console

/-! ## Runs -/

variable {file : String} {base : Given Base} {c c' : Console} {a : Arguments} {t : Terminal}
  {old : List UInt8} {arguments : List String} {seen : List (List Group)} {w : Work}

/-- **A job in place that succeeds** has left a rewritten text. -/
theorem Job.leaves (hjob : a.job.ConvertsInPlace file base) (hold : c.files.read file = .ok old)
    (h : (c.carryOut a t).2.result = .ok ()) :
    c.Leaves a.config file old base a.job (c.carryOut a t).2 := by
  obtain ⟨config, verbose, log, job⟩ := a
  cases job with
  | replace file' literal base' all equivalent start inPlace =>
    obtain ⟨rfl, rfl, hreach, rfl⟩ := hjob
    exact Console.leaves_replace hold hreach h
  | cycle file' base' inPlace =>
    obtain ⟨rfl, rfl, rfl⟩ := hjob
    exact Console.leaves_cycle config hold h
  | _ => exact hjob.elim

theorem run_of_prepare (h : prepare c arguments = .ok (c', a)) (t : Terminal) :
    run c t arguments = finish (c'.carryOut a t).2 (c'.carryOut a t).1 := by
  rw [run, h]

theorem finish_of_ok (h : w.result = .ok ()) : finish w seen = ⟨w.state, .finished, seen⟩ := by
  unfold finish endOf
  rw [h]

theorem result_of_finished (h : (finish w seen).ending = .finished) : w.result = .ok () := by
  unfold finish endOf at h
  cases hresult : w.result with
  | ok _ => rfl
  | error e =>
    rw [hresult] at h
    dsimp only at h
    split at h
    · cases h
    · cases h

/-- **A conversion in place touches only the numbers that it converts.**  After a run that finishes, what
    was in the file is there with only some literals written anew in the base: all of them, those that are
    like the given one and not kept by the guard, or the first of its spelling.  The bytes between stay,
    except that each part that is no text is a replacement character; if all was text they are the same.
    What a log that is kept in the file itself has added to it before counts as what was in it. -/
theorem conversion_in_place (hprepared : prepare c arguments = .ok (c', a))
    (hjob : a.job.ConvertsInPlace file base) (hold : c.files.read file = .ok old)
    (hfinished : (run c t arguments).ending = .finished) :
    ∃ added g bytes, (¬ c'.LogsTo file → added = []) ∧
      (∀ settings, (c'.loadSettings a.config).result = .ok settings →
        g = Guard.ofKeywords settings.keywords) ∧
      (run c t arguments).console.files.read file = .ok bytes ∧
      RewrittenBytes (a.job.Converts g (Utf8.decodeLossy (old ++ added)))
        (fun s r => ∃ b, base = .value b ∧ respelling b s = .ok r) (old ++ added) bytes := by
  obtain ⟨added, hread, hnone⟩ := read_of_prepare hprepared hold
  rw [run_of_prepare hprepared] at hfinished ⊢
  have hok := result_of_finished hfinished
  obtain ⟨more, g, u, hnone', hguard, hwritten, hu⟩ := Job.leaves hjob hread hok
  rw [List.append_assoc] at hu
  refine ⟨added ++ more, g, _, fun hapart => ?_, hguard, ?_, hu.bytes ?_⟩
  · rw [hnone hapart, hnone' hapart]
    rfl
  · rw [finish_of_ok hok, hwritten]
  · rintro s r ⟨b, -, hr⟩
    exact Numeral.isNumeral_respelling hr

/-- Of three literals with the value ten one follows a keyword, and beside another stands a byte that is
    no text. -/
theorem conversion_in_place_three_tens :
    let old : List UInt8 := Utf8.encode "10 return 10 ".toList ++ 0xFF :: Utf8.encode " 0b1010".toList
    let c : Console := .start ⟨[("HOME", "/h")], [], 9⟩ ⟨[(["f"], .file old)]⟩ ""
    let a : Arguments := ⟨none, false, none, .replace "f" (.value "10") (.value .hex) true true none true⟩
    let r := run c ⟨.nan, 24, 80, [], fun _ => .none⟩
      ["replace", "f", "10", "--to", "hex", "--all", "--equivalent", "--in-place"]
    c.files.read "f" = .ok old ∧ r.ending = .finished ∧
      r.console.files.read "f" = .ok (Utf8.encode "0xA return 10 \ufffd 0xA".toList) ∧
      RewrittenBytes (a.job.Converts .default (Utf8.decodeLossy old))
        (fun s r => ∃ b, Given.value Base.hex = .value b ∧ respelling b s = .ok r) old
        (Utf8.encode "0xA return 10 \ufffd 0xA".toList) := by
  intro old c a r
  let c' : Console := { c with log := .errors }
  have hprepared : prepare c ["replace", "f", "10", "--to", "hex", "--all", "--equivalent",
      "--in-place"] = .ok (c', a) := by
    decide +kernel
  have hold : c.files.read "f" = .ok old := by decide +kernel
  have hfinished : r.ending = .finished := by decide +kernel
  have hnew : r.console.files.read "f" = .ok (Utf8.encode "0xA return 10 \ufffd 0xA".toList) := by
    decide +kernel
  have hsettings : (c'.loadSettings none).result = .ok Settings.default := by decide +kernel
  have hapart : ¬ c'.LogsTo "f" := by
    rintro ⟨path, hpath, -⟩
    cases hpath
  obtain ⟨added, g, bytes, hnone, hguard, hread, hrewritten⟩ :=
    conversion_in_place hprepared ⟨rfl, rfl, .inl rfl, rfl⟩ hold hfinished
  obtain rfl := hnone hapart
  obtain rfl := hguard _ hsettings
  obtain rfl := Except.ok.inj (hread.symm.trans hnew)
  rw [List.append_nil] at hrewritten
  exact ⟨hold, hfinished, hnew, hrewritten⟩

/-- A byte that is no text does not stay, although it stands in no literal. -/
theorem conversion_in_place_mends :
    let old : List UInt8 := [0xFF, 0x20, 0x31]
    let c : Console := .start ⟨[], [], 9⟩ ⟨[(["f"], .file old)]⟩ ""
    let r := run c ⟨.nan, 24, 80, [], fun _ => .none⟩ ["cycle", "f", "--to", "hex", "--in-place"]
    c.files.read "f" = .ok old ∧ r.ending = .finished ∧
      (spellings (Utf8.decodeLossy old)).map Spelling.text = [['1']] ∧
      ∀ bytes, r.console.files.read "f" = .ok bytes →
        ¬ ∃ gaps new, gaps.length = 2 ∧ old = Utf8.woven gaps [['1']] ∧
          bytes = Utf8.woven gaps [new] ∧ ∀ c ∈ new, c.toNat < 128 := by
  intro old c r
  have hnew : r.console.files.read "f" = .ok [0xEF, 0xBF, 0xBD, 0x20, 0x30, 0x78, 0x31] := by
    decide +kernel
  refine ⟨by decide +kernel, by decide +kernel, by decide +kernel, ?_⟩
  rintro bytes hbytes ⟨gaps, new, hlen, hold, rfl, -⟩
  have hlost : (0xFF : UInt8) ∉ Utf8.woven gaps [new] := by
    rw [← Except.ok.inj (hnew.symm.trans hbytes)]
    decide
  have hthere : (0xFF : UInt8) ∈ Utf8.woven gaps [['1']] := by
    rw [← hold]
    decide
  rcases (Utf8.mem_woven hlen).1 hthere with hgap | ⟨s, hs, hmem⟩
  · exact hlost ((Utf8.mem_woven hlen).2 (.inl hgap))
  · obtain rfl := List.mem_singleton.1 hs
    exact absurd hmem (by decide)

end Respell.CommandLine
