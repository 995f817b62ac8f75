/-
  Scanning line by line.

  A line is scanned by itself when it is coloured, and the whole text when its literals are searched,
  respelled or remarked on.  This file proves that both find the same.

  1. **The scan falls apart at newlines** (`spellingsFrom_unlines`), because a newline belongs to no
     word.

  2. **Offsets, lines and columns.**  An offset is turned into a line in two ways: by walking along
     the lines (`positionIn_around`), and by counting the lines that start at it or in front of it
     (`lineAt_around`).  Both give the line in which the literal was found.

  3. **Failures too.**  The first literal that cannot be read is the same, so the two ways are equal
     as results (`foundByLine_eq`).

  4. **Annotations** put remarks together by line.  The remarks come line by line, so the one entry
     for a line holds those of its literals and no others (`get?_annotationTable`).
-/
import Respell.Editor.Drawing
import Respell.Proofs.Keystrokes
import Respell.Proofs.Lines
import Respell.Proofs.Scanning

namespace Respell

open Literal (Spelling spellings spellingsFrom scan)
open Numeral (worth)
open Text (above unlines)

/-! ## The scan -/

namespace Literal

variable {w : Bool} {pos : Nat} {l t : Text}

/-- Every spelling ends inside the text. -/
theorem stop_le_of_mem_spellingsFrom {s : Spelling} (hs : s ∈ spellingsFrom w pos t) :
    s.start + s.text.length ≤ pos + t.length := by
  fun_induction spellingsFrom w pos t with
  | case1 w pos => cases hs
  | case2 w pos c t h ih =>
    have hle := ih hs
    rw [List.length_cons]
    omega
  | case3 w pos c t n h ih =>
    have hn : n ≤ t.length := by simpa using (isNumeral_of_lengthAt h).1
    rw [List.length_cons]
    rcases List.mem_cons.1 hs with rfl | hs
    · show pos + (t.take n).length.succ ≤ _
      rw [List.length_take_of_le hn]
      omega
    · have hle := ih hs
      rw [List.length_drop] at hle
      omega

theorem stop_le_of_mem_spellings {s : Spelling} (hs : s ∈ spellings t) :
    s.start + s.text.length ≤ t.length := by
  have hle := stop_le_of_mem_spellingsFrom hs
  omega

/-- **The scan falls apart at a newline.** -/
theorem spellingsFrom_unlines (pos : Nat) (l : Text) (ls : List Text) :
    spellingsFrom false pos (unlines (l :: ls)) =
      spellingsFrom false pos l ++ spellingsFrom false (pos + l.length + 1) (unlines ls) := by
  cases ls with
  | nil =>
    show spellingsFrom false pos l = spellingsFrom false pos l ++ spellingsFrom false _ []
    rw [spellingsFrom_nil, List.append_nil]
  | cons m ms =>
    have hnewline : ∀ x : Text, beginsWord ('\n' :: x) = false := fun _ => rfl
    have hsplit : unlines (l :: m :: ms) = l ++ '\n' :: unlines (m :: ms) := by
      rw [unlines, Text.join_cons _ _ (List.cons_ne_nil m ms), List.append_assoc]
      rfl
    rw [hsplit, spellingsFrom_append false pos l (hnewline _),
      spellingsFrom_skip (lengthAt_of_beginsWord (hnewline _))]
    rfl

/-- What can be said of the spellings of a text can be said line by line. -/
theorem map_spellings_unlines {α : Type} {ls : List Text} (f : Spelling → α)
    (g : Nat → Spelling → α)
    (h : ∀ as l bs, ls = as ++ l :: bs → ∀ s ∈ spellings l,
      f { s with start := s.start + (above as).length } = g as.length s) :
    (spellings (unlines ls)).map f =
      (ls.zipIdx.map fun x => (spellings x.1).map (g x.2)).flatten := by
  -- on the lines that are left, with those in front of them kept
  suffices hrest : ∀ rest as, ls = as ++ rest →
      (spellingsFrom false (above as).length (unlines rest)).map f =
        ((rest.zipIdx as.length).map fun x => (spellings x.1).map (g x.2)).flatten from
    hrest ls [] rfl
  intro rest
  induction rest with
  | nil =>
    intro as _
    show (spellingsFrom false _ []).map f = []
    rw [spellingsFrom_nil, List.map_nil]
  | cons l rest ih =>
    intro as hls
    have hnext := ih (as ++ [l]) (by rw [hls]; simp)
    have hlength : (above (as ++ [l])).length = (above as).length + l.length + 1 := by
      simp [Nat.add_assoc]
    rw [hlength, List.length_append, List.length_singleton] at hnext
    have hshift : spellingsFrom false (above as).length l =
        (spellings l).map fun s => { s with start := s.start + (above as).length } := by
      rw [spellings, ← spellingsFrom_add, Nat.zero_add]
    rw [spellingsFrom_unlines, List.map_append, hnext, hshift, List.map_map, List.zipIdx_cons,
      List.map_cons, List.flatten_cons]
    congr 1
    exact List.map_congr_left (h as l rest hls)

end Literal

/-- A number that is written is found again, alone. -/
theorem Literal.scan_write {b : Base} {n : Nat} {t : Text} (h : Numeral.write b n = .ok t) :
    scan t = .ok [⟨t, 0, n⟩] := by
  have hworth : worth t = .ok n := Numeral.worth_of_read (Numeral.read_write h)
  rw [scan, Literal.readAll_eq, spellings,
    Literal.spellingsFrom_numeral 0 (Numeral.isNumeral_write h), List.map_cons, hworth]
  rfl

/-! ## Offsets, lines and columns -/

/-- Walking along the lines finds a place in a line again. -/
theorem Document.positionIn_around (as : List Text) (l : Text) (bs : List Text) {o : Nat}
    (ho : o ≤ l.length) : positionIn (as ++ l :: bs) ((above as).length + o) = (as.length, o) := by
  induction as with
  | nil =>
    show positionIn (l :: bs) (0 + o) = (0, o)
    rw [Nat.zero_add]
    cases bs with
    | nil => rw [positionIn, Nat.min_eq_left ho]
    | cons b bs =>
      rw [positionIn, if_pos ho]
      exact List.cons_ne_nil b bs
  | cons a as ih =>
    have hlength : (above (a :: as)).length = a.length + 1 + (above as).length := by
      simp only [above, List.flatMap_cons, List.length_append, List.length_singleton]
    have hrest : (above (a :: as)).length + o - (a.length + 1) = (above as).length + o := by omega
    rw [List.cons_append, positionIn, if_neg (by omega), hrest, ih]
    · rfl
    · exact List.append_ne_nil_of_right_ne_nil as (List.cons_ne_nil l bs)

theorem Editor.takeWhile_lineStarts (as : List Text) (l : Text) (bs : List Text) {o : Nat}
    (ho : o ≤ l.length) (pos : Nat) :
    ((lineStarts pos (as ++ l :: bs)).takeWhile (· ≤ pos + ((above as).length + o))).length =
      as.length + 1 := by
  induction as generalizing pos with
  | nil =>
    show ((lineStarts pos (l :: bs)).takeWhile (· ≤ pos + (0 + o))).length = 1
    rw [lineStarts, List.takeWhile_cons_of_pos (by simp)]
    cases bs with
    | nil => rfl
    | cons b bs =>
      rw [lineStarts, List.takeWhile_cons_of_neg (by simp; omega)]
      rfl
  | cons a as ih =>
    have hlength : pos + ((above (a :: as)).length + o) =
        pos + a.length + 1 + ((above as).length + o) := by
      simp only [above, List.flatMap_cons, List.length_append, List.length_singleton]
      omega
    rw [hlength, List.cons_append, lineStarts, List.takeWhile_cons_of_pos (by simp; omega),
      List.length_cons, ih, List.length_cons]

/-- Counting the lines that start in front of a place finds its line. -/
theorem Editor.lineAt_around (as : List Text) (l : Text) (bs : List Text) {o : Nat}
    (ho : o ≤ l.length) :
    lineAt (lineStarts 0 (as ++ l :: bs)) ((above as).length + o) = as.length := by
  have hcount := takeWhile_lineStarts as l bs ho 0
  rw [Nat.zero_add] at hcount
  rw [lineAt, hcount]
  omega

/-! ## One scan or many -/

/-- A literal by its places: the line and column of its first character, and those behind its last. -/
structure Found where
  start : Nat × Nat
  stop : Nat × Nat
  spelling : Text
  value : Nat
  deriving DecidableEq, Repr

/-- A literal of a text whose offsets have places. -/
def Found.ofLiteral (place : Nat → Nat × Nat) (l : Literal) : Found :=
  ⟨place l.start, place l.stop, l.spelling, l.value⟩

namespace Document

/-- The literals of the text of a document, by the places of their offsets. -/
def foundInText (d : Document) : Except NumeralError (List Found) :=
  (scan d.text).map (List.map (.ofLiteral fun o => d.positionOf o))

/-- The literals of the lines of a document, each line scanned by itself. -/
def foundByLine (d : Document) : Except NumeralError (List Found) :=
  (allOf (d.lines.zipIdx.map fun x =>
    (scan x.1).map (List.map (.ofLiteral fun o => (x.2, o))))).map List.flatten

/-- **One scan or many** find the same literals in the same places, or fail for the same reason. -/
theorem foundByLine_eq (d : Document) : d.foundByLine = d.foundInText := by
  have hlines : (d.lines.zipIdx.map fun x =>
        (scan x.1).map (List.map (Found.ofLiteral fun o => (x.2, o)))) =
      (d.lines.zipIdx.map fun x => (spellings x.1).map fun s =>
        (worth s.text).map fun n => Found.ofLiteral (fun o => (x.2, o)) ⟨s.text, s.start, n⟩).map
          allOf := by
    rw [List.map_map]
    exact List.map_congr_left fun x _ => Literal.scan_map _ x.1
  rw [foundByLine, hlines, ← allOf_flatten, foundInText, Literal.scan_map]
  refine congrArg allOf (Literal.map_spellings_unlines _ (fun i s => (worth s.text).map fun n =>
    Found.ofLiteral (fun o => (i, o)) ⟨s.text, s.start, n⟩) fun as l bs hls s hs => ?_).symm
  have hstop := Literal.stop_le_of_mem_spellings hs
  have hplace : ∀ o ≤ l.length, ∀ n : Nat, n = o + (above as).length →
      d.positionOf n = (as.length, o) := by
    rintro o ho n rfl
    rw [positionOf, Int.toNat_natCast, hls, Nat.add_comm, positionIn_around as l bs ho]
  have hfound : ∀ n, Found.ofLiteral (fun o => d.positionOf o)
      ⟨s.text, s.start + (above as).length, n⟩ = .ofLiteral (fun o => (as.length, o))
      ⟨s.text, s.start, n⟩ := fun n => by
    have hstart := hplace s.start (by omega) _ rfl
    have hend := hplace (s.start + s.text.length) hstop
      (s.start + (above as).length + s.text.length) (by omega)
    rw [Found.ofLiteral, Found.ofLiteral, hstart, Literal.stop, hend, Literal.stop]
  show (worth s.text).map _ = (worth s.text).map _
  rw [funext hfound]

/-- No literal begins in one line and ends in another. -/
theorem line_eq_of_mem_foundByLine {d : Document} {fs : List Found} (h : d.foundByLine = .ok fs) :
    ∀ f ∈ fs, f.start.1 = f.stop.1 := by
  intro f hf
  unfold foundByLine at h
  cases hall : allOf (d.lines.zipIdx.map fun x =>
      (scan x.1).map (List.map (Found.ofLiteral fun o => (x.2, o)))) with
  | error e => rw [hall] at h; cases h
  | ok fss =>
    rw [hall] at h
    obtain rfl := Except.ok.inj h
    obtain ⟨gs, hgs, hf⟩ := List.mem_flatten.1 hf
    have hmem : Except.ok gs ∈ fss.map (.ok : List Found → Except NumeralError (List Found)) :=
      List.mem_map_of_mem hgs
    rw [← eq_map_ok_of_allOf hall] at hmem
    obtain ⟨x, -, hx⟩ := List.mem_map.1 hmem
    cases hscan : scan x.1 with
    | error e => rw [hscan] at hx; cases hx
    | ok ls =>
      rw [hscan] at hx
      obtain rfl := Except.ok.inj hx
      obtain ⟨l, -, rfl⟩ := List.mem_map.1 hf
      rfl

end Document

/-! ## Annotations -/

/-- The remarks of the literals of a text, in order. -/
def remarksIn (t : Text) : Except NumeralError (List Text) :=
  allOf ((Literal.readAll t).map (·.bind fun l => View.remark l.value))

/-- There is no remark on a number with too many decimal digits. -/
theorem View.remark_of_le {n : Nat} (h : 10 ^ digitLimit ≤ n) :
    View.remark n = .error .tooLongToWrite := by
  rw [View.remark, View.conversions, Numeral.write_decimal_of_le h]
  rfl

theorem remarksIn_eq_ok_iff {t : Text} {rs : List Text} :
    remarksIn t = .ok rs ↔
      ∃ ls, scan t = .ok ls ∧ allOf (ls.map fun l => View.remark l.value) = .ok rs :=
  allOf_map_bind

namespace Editor

/-- Remarks with the numbers of their lines, from the remarks of each line. -/
def numbered (k : Nat) (rss : List (List Text)) : List (Int × Text) :=
  ((rss.zipIdx k).map fun y => y.1.map fun r => ((y.2 : Int), r)).flatten

/-- The annotations that numbered remarks make. -/
def annotationTable (xs : List (Int × Text)) : Table Int Text :=
  xs.foldl (fun annotations x => annotate x.1 x.2 annotations) []

/-- The remarks of a line with its number, by the spellings in it. -/
theorem remarksIn_map (i : Nat) (l : Text) :
    (remarksIn l).map (List.map fun r => ((i : Int), r)) =
      allOf ((spellings l).map fun s =>
        (worth s.text).bind fun n => (View.remark n).map fun r => ((i : Int), r)) := by
  rw [remarksIn, ← allOf_map, Literal.readAll_eq, List.map_map, List.map_map]
  congr 2
  funext s
  simp only [Function.comp_apply]
  cases worth s.text <;> rfl

/-- The remarks of a document with the numbers of their lines, by the spellings in its text. -/
theorem annotations_eq_spellings {e : Editor} (h : e.session.decorationsVisible = true)
    (d : Document) : e.annotations d = (allOf ((spellings d.text).map fun s =>
      (worth s.text).bind fun n => (View.remark n).map fun r =>
        (lineAt (lineStarts 0 d.lines) s.start, r))).map annotationTable := by
  have htable : annotationsOf d.lines =
      annotationTable ∘ List.map fun x => (lineAt (lineStarts 0 d.lines) x.1.start, x.2) := by
    funext ds
    rw [annotationsOf, Function.comp_apply, annotationTable, List.foldl_map]
  have hcomp : ∀ x : Except NumeralError (List (Literal × Text)),
      x.map (annotationTable ∘ List.map fun x => (lineAt (lineStarts 0 d.lines) x.1.start, x.2)) =
        (x.map (List.map fun x => (lineAt (lineStarts 0 d.lines) x.1.start, x.2))).map
          annotationTable := fun x => by cases x <;> rfl
  rw [annotations, htable, Session.decorationsOf, if_pos h, hcomp, ← allOf_map, Literal.readAll_eq,
    List.map_map, List.map_map]
  congr 3
  funext s
  simp only [Function.comp_apply]
  cases worth s.text with
  | error x => rfl
  | ok n =>
    show ((View.remark n).map _).map _ = (View.remark n).map _
    cases View.remark n <;> rfl

/-- **The remarks come line by line**: those of a document are those of its lines. -/
theorem annotations_eq {e : Editor} (h : e.session.decorationsVisible = true) (d : Document) :
    e.annotations d =
      (allOf (d.lines.map remarksIn)).map fun rss => annotationTable (numbered 0 rss) := by
  have hlines := @Literal.map_spellings_unlines _ d.lines
    (fun s => (worth s.text).bind fun n => (View.remark n).map fun r =>
      (lineAt (lineStarts 0 d.lines) s.start, r))
    (fun i s => (worth s.text).bind fun n => (View.remark n).map fun r => ((i : Int), r))
    fun as l bs hls s hs => by
      have hstop := Literal.stop_le_of_mem_spellings hs
      show (worth s.text).bind _ = (worth s.text).bind _
      rw [hls, Nat.add_comm, lineAt_around as l bs (by omega)]
  have hremarks : (d.lines.zipIdx.map fun x => (spellings x.1).map fun s =>
        (worth s.text).bind fun n => (View.remark n).map fun r => ((x.2 : Int), r)).map allOf =
      d.lines.zipIdx.map fun x => (remarksIn x.1).map (List.map fun r => ((x.2 : Int), r)) := by
    rw [List.map_map]
    exact List.map_congr_left fun x _ => (remarksIn_map x.2 x.1).symm
  rw [annotations_eq_spellings h, Document.text, hlines, allOf_flatten, hremarks,
    allOf_zipIdx remarksIn fun i => List.map fun r => ((i : Int), r)]
  cases allOf (d.lines.map remarksIn) <;> rfl

/-- What the table has for a line: the remarks with its number, put together. -/
theorem get?_foldl_annotate (k : Int) (xs : List (Int × Text)) (t : Table Int Text) :
    (xs.foldl (fun annotations x => annotate x.1 x.2 annotations) t).get? k =
      if xs.filter (·.1 = k) = [] then t.get? k
      else some ((t.get? k).getD [] ++ (xs.filter (·.1 = k)).flatMap (·.2)) := by
  induction xs generalizing t with
  | nil => rfl
  | cons x xs ih =>
    rw [List.foldl_cons, ih, annotate, Table.get?_set, List.filter_cons]
    by_cases hx : x.1 = k
    · subst hx
      simp only [decide_true, if_true, Option.getD_some, List.flatMap_cons, List.append_assoc,
        List.cons_ne_nil, if_false]
      split
      · rename_i hnil
        rw [hnil, List.flatMap_nil, List.append_nil]
      · rfl
    · simp only [hx, decide_false, Bool.false_eq_true, if_false]

/-- The remarks with the number of a line are those of the line. -/
theorem filter_numbered (k : Nat) (i : Int) (rss : List (List Text)) :
    (numbered k rss).filter (·.1 = i) =
      if (k : Int) ≤ i then (rss.getD (i - k).toNat []).map fun r => (i, r) else [] := by
  induction rss generalizing k with
  | nil => simp [numbered]
  | cons rs rss ih =>
    have hcons : numbered k (rs :: rss) =
        (rs.map fun r => ((k : Int), r)) ++ numbered (k + 1) rss := rfl
    rw [hcons, List.filter_append, ih, List.filter_map]
    by_cases hk : (k : Int) = i
    · -- this line, and none behind it
      subst hk
      rw [if_neg (by omega), if_pos (Int.le_refl _), Int.sub_self, List.append_nil]
      have hall :
          rs.filter ((fun x : Int × Text => decide (x.1 = k)) ∘ fun r => ((k : Int), r)) = rs :=
        List.filter_eq_self.2 fun r _ => by simp
      rw [hall]
      rfl
    · have hnone :
          rs.filter ((fun x : Int × Text => decide (x.1 = i)) ∘ fun r => ((k : Int), r)) = [] :=
        List.filter_eq_nil_iff.2 fun r _ => by simpa using hk
      rw [hnone, List.map_nil, List.nil_append]
      by_cases hle : (k : Int) ≤ i
      · have hnext : (i - k).toNat = (i - (k + 1 : Nat)).toNat + 1 := by omega
        rw [if_pos (by omega), if_pos hle, hnext, List.getD_cons_succ]
      · rw [if_neg (by omega), if_neg hle]

/-- **What is drawn behind a line**: the remarks of its literals, put together, and nothing if there
    are none. -/
theorem get?_annotationTable (rss : List (List Text)) (i : Int) :
    (annotationTable (numbered 0 rss)).get? i =
      if 0 ≤ i ∧ rss.getD i.toNat [] ≠ [] then some (rss.getD i.toNat []).flatten else none := by
  have hfilter := filter_numbered 0 i rss
  rw [Int.natCast_zero, Int.sub_zero] at hfilter
  rw [annotationTable, get?_foldl_annotate, hfilter, Table.get?, Option.getD_none, List.nil_append]
  by_cases hi : 0 ≤ i
  · cases rss.getD i.toNat [] with
    | nil => simp
    | cons r rs => simp [hi, List.flatMap_def, Function.comp_def]
  · simp [hi]

/-- Annotations are made of the remarks of each line, if there are some for each. -/
theorem annotations_eq_ok_iff {e : Editor} (h : e.session.decorationsVisible = true) {d : Document}
    {table : Table Int Text} :
    e.annotations d = .ok table ↔
      ∃ rss, allOf (d.lines.map remarksIn) = .ok rss ∧ table = annotationTable (numbered 0 rss) := by
  rw [annotations_eq h]
  cases allOf (d.lines.map remarksIn) with
  | error x =>
    constructor
    · intro hx
      cases hx
    · rintro ⟨rss, hx, -⟩
      cases hx
  | ok rss =>
    constructor
    · intro hok
      exact ⟨rss, rfl, (Except.ok.inj hok).symm⟩
    · rintro ⟨rss', hok, rfl⟩
      rw [Except.ok.inj hok]
      rfl

/-- There are annotations if every line has remarks for all of its literals. -/
theorem exists_annotations_iff {e : Editor} (h : e.session.decorationsVisible = true) {d : Document} :
    (∃ table, e.annotations d = .ok table) ↔ ∀ l ∈ d.lines, ∃ ls rs, scan l = .ok ls ∧
      allOf (ls.map fun x => View.remark x.value) = .ok rs := by
  constructor
  · rintro ⟨table, htable⟩ l hl
    obtain ⟨rss, hrss, -⟩ := (annotations_eq_ok_iff h).1 htable
    obtain ⟨rs, hrs⟩ := exists_allOf_iff.1 ⟨rss, hrss⟩ _ (List.mem_map_of_mem hl)
    obtain ⟨ls, hscan, hremarks⟩ := remarksIn_eq_ok_iff.1 hrs
    exact ⟨ls, rs, hscan, hremarks⟩
  · intro hlines
    obtain ⟨rss, hrss⟩ : ∃ rss, allOf (d.lines.map remarksIn) = .ok rss := by
      refine exists_allOf_iff.2 fun x hx => ?_
      obtain ⟨l, hl, rfl⟩ := List.mem_map.1 hx
      obtain ⟨ls, rs, hscan, hremarks⟩ := hlines l hl
      exact ⟨rs, remarksIn_eq_ok_iff.2 ⟨ls, hscan, hremarks⟩⟩
    exact ⟨_, (annotations_eq_ok_iff h).2 ⟨rss, hrss, rfl⟩⟩

/-- The annotation of a line that is there. -/
theorem get?_annotations {e : Editor} (h : e.session.decorationsVisible = true) {d : Document}
    {table : Table Int Text} (htable : e.annotations d = .ok table) {i : Nat} {l : Text}
    (hl : d.lines[i]? = some l) :
    ∃ ls rs, scan l = .ok ls ∧ allOf (ls.map fun x => View.remark x.value) = .ok rs ∧
      table.get? (i : Int) = if ls = [] then none else some rs.flatten := by
  obtain ⟨rss, hrss, rfl⟩ := (annotations_eq_ok_iff h).1 htable
  have hmap := congrArg (·[i]?) (eq_map_ok_of_allOf hrss)
  simp only [List.getElem?_map, hl, Option.map_some] at hmap
  obtain ⟨rs, hrs, hok⟩ := Option.map_eq_some_iff.1 hmap.symm
  obtain ⟨ls, hscan, hremarks⟩ := remarksIn_eq_ok_iff.1 hok.symm
  have hget : rss.getD i [] = rs := by rw [List.getD_eq_getElem?_getD, hrs, Option.getD_some]
  -- there are as many remarks as literals
  have hlength : ls.length = rs.length := by
    simpa using congrArg List.length (eq_map_ok_of_allOf hremarks)
  refine ⟨ls, rs, hscan, hremarks, ?_⟩
  rw [get?_annotationTable, Int.toNat_natCast, hget]
  by_cases hnil : ls = []
  · have hrs0 : rs = [] := List.length_eq_zero_iff.1 (by rw [← hlength, hnil, List.length_nil])
    simp [hnil, hrs0]
  · have hrs0 : rs ≠ [] := fun h0 =>
      hnil (List.length_eq_zero_iff.1 (by rw [hlength, h0, List.length_nil]))
    simp [hnil, hrs0]

/-- Only lines that are there have annotations. -/
theorem get?_annotations_outside {e : Editor} (h : e.session.decorationsVisible = true) {d : Document}
    {table : Table Int Text} (htable : e.annotations d = .ok table) {i : Int}
    (hi : i < 0 ∨ d.lines.length ≤ i) : table.get? i = none := by
  obtain ⟨rss, hrss, rfl⟩ := (annotations_eq_ok_iff h).1 htable
  have hlength : d.lines.length = rss.length := by
    simpa using congrArg List.length (eq_map_ok_of_allOf hrss)
  rw [get?_annotationTable]
  refine if_neg fun hin => hin.2 ?_
  rw [List.getD_eq_getElem?_getD, List.getElem?_eq_none (by omega), Option.getD_none]

/-- A literal that can be read, but has too many decimal digits to be remarked on, keeps the text from
    being annotated. -/
theorem annotations_of_le {e : Editor} (h : e.session.decorationsVisible = true) {b : Base} {n : Nat}
    {t : Text} (hn : 10 ^ digitLimit ≤ n) (ht : Numeral.write b n = .ok t) :
    e.annotations (.ofText t) = .error .tooLongToWrite := by
  have hread : Literal.readAll t = [.ok ⟨t, 0, n⟩] := eq_map_ok_of_allOf (Literal.scan_write ht)
  rw [annotations, Session.decorationsOf, if_pos h, Document.text_ofText, hread, List.map_singleton]
  show (allOf [(View.remark n).map _]).map _ = _
  rw [View.remark_of_le hn]
  rfl

end Editor

/-! ## The law -/

/-- **What is highlighted is what is converted.**  The literals of the lines of a document, each line
    scanned by itself, are the literals of its text, in the same order and places, and if one of the
    scans fails the other fails for the same reason.  So no literal begins in one line and ends in
    another.  Behind each line that has literals stand their remarks, put together, and behind the
    others nothing; there are such annotations if every literal can be read and remarked on. -/
theorem scan_line_by_line (d : Document) (e : Editor) :
    d.foundByLine = d.foundInText ∧
      (∀ ls, scan d.text = .ok ls → ∀ l ∈ ls, (d.positionOf l.start).1 = (d.positionOf l.stop).1) ∧
      (e.session.decorationsVisible = false → e.annotations d = .ok []) ∧
      (e.session.decorationsVisible = true →
        ((∃ table, e.annotations d = .ok table) ↔ ∀ l ∈ d.lines, ∃ ls rs, scan l = .ok ls ∧
          allOf (ls.map fun x => View.remark x.value) = .ok rs) ∧
        ∀ table, e.annotations d = .ok table →
          (∀ (i : Nat) (l : Text), d.lines[i]? = some l → ∃ ls rs, scan l = .ok ls ∧
            allOf (ls.map fun x => View.remark x.value) = .ok rs ∧
            table.get? (i : Int) = if ls = [] then none else some rs.flatten) ∧
          ∀ i : Int, i < 0 ∨ d.lines.length ≤ i → table.get? i = none) := by
  refine ⟨d.foundByLine_eq, fun ls hls l hl => ?_, fun hoff => ?_, fun hon => ?_⟩
  · have hfound : d.foundByLine = .ok (ls.map (.ofLiteral fun o => d.positionOf o)) := by
      rw [d.foundByLine_eq, Document.foundInText, hls]
      rfl
    exact Document.line_eq_of_mem_foundByLine hfound _ (List.mem_map_of_mem hl)
  · rw [Editor.annotations, Session.decorationsOf, hoff]
    rfl
  · exact ⟨Editor.exists_annotations_iff hon, fun table htable =>
      ⟨fun i l => Editor.get?_annotations hon htable,
        fun i => Editor.get?_annotations_outside hon htable⟩⟩

/-- Two lines, of which only the first has literals. -/
theorem scan_line_by_line_two_lines :
    let d : Document := .ofText ['1', ' ', '0', 'x', '2', '\n', '-']
    let one : View.Conversions := ⟨['1'], ['0', 'x', '1'], ['0', 'b', '1'], ['0', 'o', '1']⟩
    let two : View.Conversions := ⟨['2'], ['0', 'x', '2'], ['0', 'b', '1', '0'], ['0', 'o', '2']⟩
    scan d.text = .ok [⟨['1'], 0, 1⟩, ⟨['0', 'x', '2'], 2, 2⟩] ∧
      d.foundByLine = .ok [⟨(0, 0), (0, 1), ['1'], 1⟩, ⟨(0, 2), (0, 5), ['0', 'x', '2'], 2⟩] ∧
      ∃ table, (Editor.onDocument d).annotations d = .ok table ∧
        table.get? 0 = some (one.remark ++ two.remark) ∧ table.get? 1 = none := by
  intro d one two
  obtain ⟨hfound, -, -, hon⟩ := scan_line_by_line d (Editor.onDocument d)
  obtain ⟨hexists, hlines⟩ := hon rfl
  have hfirst : scan ['1', ' ', '0', 'x', '2'] = .ok [⟨['1'], 0, 1⟩, ⟨['0', 'x', '2'], 2, 2⟩] := by
    decide +kernel
  have hsecond : scan ['-'] = .ok [] := by decide +kernel
  have hremarks : allOf [View.remark 1, View.remark 2] = .ok [one.remark, two.remark] := by
    have hone : View.conversions 1 = .ok one := by decide +kernel
    have htwo : View.conversions 2 = .ok two := by decide +kernel
    rw [View.remark, View.remark, hone, htwo]
    rfl
  obtain ⟨table, htable⟩ := hexists.2 (by
    have hd : d.lines = [['1', ' ', '0', 'x', '2'], ['-']] := by decide
    rw [hd]
    simp only [List.mem_cons, List.not_mem_nil, or_false, forall_eq_or_imp, forall_eq]
    exact ⟨⟨_, _, hfirst, hremarks⟩, ⟨_, [], hsecond, rfl⟩⟩)
  obtain ⟨hentry, -⟩ := hlines table htable
  refine ⟨by decide +kernel, by rw [hfound]; decide +kernel, table, htable, ?_, ?_⟩
  · obtain ⟨ls, rs, hls, hrs, hget⟩ := hentry 0 ['1', ' ', '0', 'x', '2'] (by decide)
    obtain rfl := Except.ok.inj (hfirst.symm.trans hls)
    obtain rfl := Except.ok.inj (hremarks.symm.trans hrs)
    simpa using hget
  · obtain ⟨ls, rs, hls, -, hget⟩ := hentry 1 ['-'] (by decide)
    obtain rfl := Except.ok.inj (hsecond.symm.trans hls)
    exact hget

/-- Nothing stands behind a line if decorations are switched off, nor if one of the literals has too
    many decimal digits to be remarked on. -/
theorem not_annotated :
    (let d : Document := .ofText ['7']
      let e := Editor.onDocument d
      let seven : View.Conversions :=
        ⟨['7'], ['0', 'x', '7'], ['0', 'b', '1', '1', '1'], ['0', 'o', '7']⟩
      scan ['7'] = .ok [⟨['7'], 0, 7⟩] ∧ View.remark 7 = .ok seven.remark ∧
        ({ e with session := { e.session with decorations := false } }).annotations d = .ok []) ∧
    (let t := Base.hex.marker ++ Numeral.digitsText 16 (10 ^ digitLimit)
      let d : Document := .ofText t
      scan t = .ok [⟨t, 0, 10 ^ digitLimit⟩] ∧
        (Editor.onDocument d).annotations d = .error .tooLongToWrite) := by
  constructor
  · intro d e seven
    have hseven : View.conversions 7 = .ok seven := by decide +kernel
    refine ⟨by decide +kernel, ?_, rfl⟩
    rw [View.remark, hseven]
    rfl
  · intro t d
    have ht : Numeral.write .hex (10 ^ digitLimit : Nat) = .ok t := rfl
    exact ⟨Literal.scan_write ht, Editor.annotations_of_le rfl (Nat.le_refl _) ht⟩

end Respell
