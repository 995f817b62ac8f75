/-
  Segments are run lengths.

  A line is drawn in segments, each in the colour of its category.  The categories come from two sides:
  the tokens of a lexer, which need not be as long as the line is, and the literals, which cut across
  tokens.  This file says what the segments of a line are, without saying how they are put together.

  1. **Specification**, character by character.  Pieces that stand one behind another give each place
     the label of the piece that covers it (`labelAt`).  The category at a place is that of numbers if
     a literal covers it, and otherwise that of the token that covers it, or plain past the last token
     (`categoryAt`).

  2. **Painting** (`getElem?_categories`).  The tokens are spread over the line, cut or filled up to
     its length, and the literals are painted on top.  No literal reaches past the end of the line, so
     what is painted keeps its length, and the order of the literals does not matter.

  3. **Runs** (`runs_eq_iff`).  Characters with labels are the same thing as maximal runs: pieces none
     of which is empty and of which no two neighbours have one label.  Spreading the runs gives the
     characters back, and the runs of what maximal pieces spread to are these pieces, so there is one
     way only to write them.

  4. **One failure.**  A line has segments exactly if each of its literals can be read
     (`segments_are_runs`).  One literal that is too long takes them from the whole line
     (`segments_of_ones`).
-/
import Mathlib.Data.List.Chain
import Respell.Proofs.Limits
import Respell.Proofs.LineByLine

namespace Respell

namespace Highlight

open Literal (scan)

variable {α : Type}

/-! ## What covers a place -/

/-- The label of the piece that covers a place, among pieces that stand one behind another. -/
def labelAt : List (Text × α) → Nat → Option α
  | [], _ => none
  | (t, a) :: rest, i => if i < t.length then some a else labelAt rest (i - t.length)

/-- The category at a place of a line with these literals and tokens. -/
def categoryAt (ls : List Literal) (tokens : List (Kind × Text)) (i : Nat) : Category :=
  if ∃ l ∈ ls, l.start ≤ i ∧ i < l.stop then .number
  else ((labelAt (tokens.map Prod.swap) i).map Category.ofKind).getD .plain

/-- The labels of pieces, one for each of their characters. -/
def spread (ps : List (Text × α)) : List α := ps.flatMap fun p => List.replicate p.1.length p.2

theorem length_spread (ps : List (Text × α)) : (spread ps).length = (ps.flatMap (·.1)).length := by
  rw [spread, List.length_flatMap, List.length_flatMap]
  simp only [List.length_replicate]

/-- **What covers a place** is what is spread over it. -/
theorem getElem?_spread (ps : List (Text × α)) (i : Nat) : (spread ps)[i]? = labelAt ps i := by
  induction ps generalizing i with
  | nil => rfl
  | cons p ps ih =>
    obtain ⟨t, a⟩ := p
    have hcons : spread ((t, a) :: ps) = List.replicate t.length a ++ spread ps := rfl
    rw [hcons, labelAt, List.getElem?_append, List.length_replicate, List.getElem?_replicate, ih]
    split <;> rfl

/-- The tokens are spread by their categories. -/
theorem covered_eq (tokens : List (Kind × Text)) :
    covered tokens = (spread (tokens.map Prod.swap)).map Category.ofKind := by
  rw [covered, spread, List.flatMap_map, List.map_flatMap]
  simp only [Prod.fst_swap, Prod.snd_swap, List.map_replicate]

/-! ## Painting -/

theorem length_fit (n : Nat) (cs : List Category) : (fit n cs).length = n := by
  fun_induction fit n cs with
  | case1 => rfl
  | case2 n ih => rw [List.length_cons, ih]
  | case3 n c cs ih => rw [List.length_cons, ih]

theorem getElem?_fit {n : Nat} {cs : List Category} {i : Nat} (hi : i < n) :
    (fit n cs)[i]? = some (cs[i]?.getD .plain) := by
  fun_induction fit n cs generalizing i with
  | case1 => exact absurd hi (Nat.not_lt_zero i)
  | case2 n ih =>
    cases i with
    | zero => rfl
    | succ i => exact ih (Nat.lt_of_succ_lt_succ hi)
  | case3 n c cs ih =>
    cases i with
    | zero => rfl
    | succ i => exact ih (Nat.lt_of_succ_lt_succ hi)

variable {cs : List Category}

theorem length_mark {l : Literal} (hl : l.stop ≤ cs.length) : (mark cs l).length = cs.length := by
  have hstart : l.start ≤ cs.length := Nat.le_trans (Nat.le_add_right _ _) hl
  rw [mark, List.length_append, List.length_append, List.length_take_of_le hstart,
    List.length_replicate, List.length_drop]
  exact Nat.add_sub_of_le hl

/-- A literal paints its own characters and no others. -/
theorem getElem?_mark {l : Literal} (hl : l.stop ≤ cs.length) (i : Nat) :
    (mark cs l)[i]? = if l.start ≤ i ∧ i < l.stop then some .number else cs[i]? := by
  have hstop : l.stop = l.start + l.spelling.length := rfl
  have hlength : (cs.take l.start).length = l.start := List.length_take_of_le (by omega)
  rw [mark, List.append_assoc, List.getElem?_append, hlength]
  by_cases hstart : i < l.start
  · rw [if_pos hstart, if_neg (by omega), List.getElem?_take_of_lt hstart]
  · rw [if_neg hstart, List.getElem?_append, List.length_replicate]
    by_cases hin : i < l.stop
    · rw [if_pos (by omega), if_pos (by omega), List.getElem?_replicate_of_lt (by omega)]
    · rw [if_neg (by omega), if_neg (by omega), List.getElem?_drop]
      congr 1
      omega

/-- **Literals paint what they cover**, whatever their order. -/
theorem getElem?_foldl_mark {ls : List Literal} (hls : ∀ l ∈ ls, l.stop ≤ cs.length) :
    (ls.foldl mark cs).length = cs.length ∧ ∀ i, (ls.foldl mark cs)[i]? =
      if ∃ l ∈ ls, l.start ≤ i ∧ i < l.stop then some .number else cs[i]? := by
  induction ls generalizing cs with
  | nil => simp
  | cons l ls ih =>
    obtain ⟨hl, hls⟩ := List.forall_mem_cons.1 hls
    have hlength := length_mark hl
    have hrest : ∀ m ∈ ls, m.stop ≤ (mark cs l).length := by
      intro m hm
      rw [hlength]
      exact hls m hm
    obtain ⟨hfold, hpaint⟩ := ih hrest
    refine ⟨hfold.trans hlength, fun i => ?_⟩
    rw [List.foldl_cons, hpaint, getElem?_mark hl]
    simp only [List.exists_mem_cons_iff]
    by_cases hlater : ∃ m ∈ ls, m.start ≤ i ∧ i < m.stop
    · rw [if_pos hlater, if_pos (.inr hlater)]
    · rw [if_neg hlater]
      simp only [hlater, or_false]

/-- **The categories of a line** are the ones at its places. -/
theorem getElem?_categories (tokens : List (Kind × Text)) {line : Text} {ls : List Literal}
    (hls : scan line = .ok ls) : ∃ cs, categories tokens line = .ok cs ∧ cs.length = line.length ∧
      ∀ i < line.length, cs[i]? = some (categoryAt ls tokens i) := by
  have hinside : ∀ l ∈ ls, l.stop ≤ (fit line.length (covered tokens)).length := by
    intro l hl
    rw [length_fit]
    exact Literal.stop_le_of_mem_spellings (Literal.mem_of_scan hls hl).1
  obtain ⟨hlength, hpaint⟩ := getElem?_foldl_mark hinside
  refine ⟨ls.foldl mark (fit line.length (covered tokens)), ?_, ?_, ?_⟩
  · rw [categories, hls]
    rfl
  · rw [hlength, length_fit]
  · intro i hi
    rw [hpaint, getElem?_fit hi, covered_eq, List.getElem?_map, getElem?_spread, categoryAt]
    split <;> rfl

/-! ## Runs -/

/-- Whether pieces are as long as they can be: none is empty, and no two neighbours have one label. -/
structure Maximal (ss : List (Text × Category)) : Prop where
  nonempty : ∀ s ∈ ss, s.1 ≠ []
  changes : ss.IsChain (·.2 ≠ ·.2)

/-- The characters of pieces with their labels. -/
def marked (ss : List (Text × Category)) : List (Char × Category) :=
  (ss.flatMap (·.1)).zip (spread ss)

variable {ss : List (Text × Category)} {k m : Category} {t : Text} {x : Char}

theorem marked_cons_cons : marked ((x :: t, k) :: ss) = (x, k) :: marked ((t, k) :: ss) := rfl

theorem marked_nil_cons : marked (([], k) :: ss) = marked ss := rfl

/-- A character that goes before pieces joins the first, or is one more piece. -/
theorem runs_cons (xs : List (Char × Category)) :
    runs ((x, k) :: xs) = match runs xs with
      | [] => [([x], k)]
      | (t, m) :: more => if k = m then (x :: t, m) :: more else ([x], k) :: (t, m) :: more := rfl

/-- The characters of the runs are what the runs were made of. -/
theorem marked_runs (xs : List (Char × Category)) : marked (runs xs) = xs := by
  induction xs with
  | nil => rfl
  | cons y xs ih =>
    obtain ⟨x, k⟩ := y
    rw [runs_cons]
    cases hruns : runs xs with
    | nil =>
      rw [hruns] at ih
      rw [← ih]
      rfl
    | cons s more =>
      obtain ⟨t, m⟩ := s
      rw [hruns] at ih
      dsimp only
      split
      · next heq => rw [heq, marked_cons_cons, ih]
      · rw [marked_cons_cons, marked_nil_cons, ih]

/-- **Runs are maximal.** -/
theorem maximal_runs (xs : List (Char × Category)) : Maximal (runs xs) := by
  induction xs with
  | nil => exact ⟨fun s hs => absurd hs List.not_mem_nil, List.isChain_nil⟩
  | cons y xs ih =>
    obtain ⟨x, k⟩ := y
    rw [runs_cons]
    cases hruns : runs xs with
    | nil => exact ⟨by simp, List.isChain_singleton _⟩
    | cons s more =>
      obtain ⟨t, m⟩ := s
      rw [hruns] at ih
      obtain ⟨-, hmore⟩ := List.forall_mem_cons.1 ih.nonempty
      dsimp only
      split
      · -- the character joins the first run, whose label stays
        refine ⟨List.forall_mem_cons.2 ⟨List.cons_ne_nil x t, hmore⟩, ?_⟩
        have hchain := ih.changes
        rw [List.isChain_cons] at hchain ⊢
        exact hchain
      · next hne =>
        refine ⟨List.forall_mem_cons.2 ⟨List.cons_ne_nil x [], ih.nonempty⟩, ?_⟩
        exact List.isChain_cons_cons.2 ⟨hne, ih.changes⟩

/-- The runs of what a piece and more spread to, when the others are the runs of theirs. -/
theorem runs_marked_cons (hss : runs (marked ss) = ss) (hchain : ((t, k) :: ss).IsChain (·.2 ≠ ·.2))
    (ht : t ≠ []) : runs (marked ((t, k) :: ss)) = (t, k) :: ss := by
  induction t with
  | nil => exact absurd rfl ht
  | cons x t ih =>
    rw [marked_cons_cons, runs_cons]
    cases t with
    | nil =>
      -- the last character of the piece, and the next piece has another label
      rw [marked_nil_cons, hss]
      cases ss with
      | nil => rfl
      | cons s ss =>
        have hne : k ≠ s.2 := (List.isChain_cons_cons.1 hchain).1
        exact if_neg hne
    | cons y t =>
      have htail : ((y :: t, k) :: ss).IsChain (·.2 ≠ ·.2) := by
        rw [List.isChain_cons] at hchain ⊢
        exact hchain
      rw [ih htail (List.cons_ne_nil y t)]
      exact if_pos rfl

/-- **Maximal pieces are the runs of what they spread to.** -/
theorem runs_marked (h : Maximal ss) : runs (marked ss) = ss := by
  induction ss with
  | nil => rfl
  | cons s ss ih =>
    obtain ⟨hs, hss⟩ := List.forall_mem_cons.1 h.nonempty
    exact runs_marked_cons (ih ⟨hss, h.changes.tail⟩) h.changes hs

/-- **There is one way to write runs.** -/
theorem runs_eq_iff {xs : List (Char × Category)} : runs xs = ss ↔ Maximal ss ∧ marked ss = xs := by
  constructor
  · rintro rfl
    exact ⟨maximal_runs xs, marked_runs xs⟩
  · rintro ⟨hmaximal, rfl⟩
    exact runs_marked hmaximal

/-- Pieces have the characters of a line and their categories if they spell the line and cover its
    places with these categories. -/
theorem marked_eq_zip_iff {line : Text} (hcs : cs.length = line.length) :
    marked ss = line.zip cs ↔
      ss.flatMap (·.1) = line ∧ ∀ i < line.length, labelAt ss i = cs[i]? := by
  have hss : (spread ss).length = (ss.flatMap (·.1)).length := length_spread ss
  constructor
  · intro h
    have hline := congrArg (List.map Prod.fst) h
    have hlabels := congrArg (List.map Prod.snd) h
    rw [marked, List.map_fst_zip (Nat.le_of_eq hss.symm),
      List.map_fst_zip (Nat.le_of_eq hcs.symm)] at hline
    rw [marked, List.map_snd_zip (Nat.le_of_eq hss), List.map_snd_zip (Nat.le_of_eq hcs)] at hlabels
    exact ⟨hline, fun i _ => by rw [← getElem?_spread, hlabels]⟩
  · rintro ⟨hline, hlabels⟩
    have hspread : spread ss = cs := by
      refine List.ext_getElem? fun i => ?_
      by_cases hi : i < line.length
      · rw [getElem?_spread, hlabels i hi]
      · rw [List.getElem?_eq_none (by rw [hss, hline]; omega), List.getElem?_eq_none (by omega)]
    rw [marked, hline, hspread]

/-- The segments of a line are made from categories, one for each of its characters. -/
theorem exists_of_segments {tokens : List (Kind × Text)} {line : Text}
    (h : segments tokens line = .ok ss) :
    ∃ cs : List Category, cs.length = line.length ∧ runs (line.zip cs) = ss := by
  obtain ⟨cs, hcs, hruns⟩ := exists_of_map_eq_ok h
  obtain ⟨ls, hls, -⟩ := exists_of_map_eq_ok hcs
  obtain ⟨cs', hcs', hlength, -⟩ := getElem?_categories tokens hls
  obtain rfl := Except.ok.inj (hcs.symm.trans hcs')
  exact ⟨cs, hlength, hruns⟩

/-- Coloured pieces put together are the line. -/
theorem flatMap_colours {tokens : List (Kind × Text)} {line : Text} {pieces : List (Text × Nat)}
    (h : colours tokens line = .ok pieces) : pieces.flatMap (·.1) = line := by
  unfold colours at h
  split at h
  · rename_i hempty
    obtain rfl := Except.ok.inj h
    exact (List.isEmpty_iff.1 hempty).symm
  · obtain ⟨ss, hss, rfl⟩ := exists_of_map_eq_ok h
    obtain ⟨cs, hlength, rfl⟩ := exists_of_segments hss
    rw [List.flatMap_map]
    exact (flatten_runs _).trans (List.map_fst_zip (Nat.le_of_eq hlength.symm))

/-! ## The law -/

/-- **Segments are the run lengths of the categories.**  Whatever tokens a lexer makes of a line, or
    none, and however long they are, the line has segments exactly if all its literals can be read.
    Its segments are then the one list of pieces that put together are the line, none of them empty
    and no two neighbours of one category, and that give each character the category of its place:
    number in a literal, else the category of the token that covers it, else plain. -/
theorem segments_are_runs (tokens : List (Kind × Text)) (line : Text) :
    ((∃ ss, segments tokens line = .ok ss) ↔ AllReadable line) ∧
      ∀ ls, scan line = .ok ls → ∀ ss, segments tokens line = .ok ss ↔
        ss.flatMap (·.1) = line ∧ (∀ s ∈ ss, s.1 ≠ []) ∧ ss.IsChain (·.2 ≠ ·.2) ∧
          ∀ i < line.length, labelAt ss i = some (categoryAt ls tokens i) := by
  constructor
  · rw [segments, exists_map_iff, categories, exists_map_iff, exists_scan_iff]
  · intro ls hls ss
    obtain ⟨cs, hcs, hlength, hcategory⟩ := getElem?_categories tokens hls
    have hsegments : segments tokens line = .ok (runs (line.zip cs)) := by
      rw [segments, hcs]
      rfl
    have hruns : segments tokens line = .ok ss ↔ runs (line.zip cs) = ss := by
      rw [hsegments, Except.ok.injEq]
    rw [hruns, runs_eq_iff, marked_eq_zip_iff hlength]
    constructor
    · rintro ⟨hmaximal, hline, hlabels⟩
      exact ⟨hline, hmaximal.nonempty, hmaximal.changes,
        fun i hi => (hlabels i hi).trans (hcategory i hi)⟩
    · rintro ⟨hline, hnonempty, hchanges, hlabels⟩
      exact ⟨⟨hnonempty, hchanges⟩, hline, fun i hi => (hlabels i hi).trans (hcategory i hi).symm⟩

/-- A literal cuts a token in two, and the last character has no token. -/
theorem segments_are_runs_cut :
    let line : Text := ['a', ' ', '7', ' ', ';']
    let tokens : List (Kind × Text) := [(["Comment", "Single"], ['a', ' ', '7', ' '])]
    let ss : List (Text × Category) :=
      [(['a', ' '], .comment), (['7'], .number), ([' '], .comment), ([';'], .plain)]
    scan line = .ok [⟨['7'], 2, 7⟩] ∧ segments tokens line = .ok ss ∧ AllReadable line := by
  intro line tokens ss
  have hscan : scan line = .ok [⟨['7'], 2, 7⟩] := by decide +kernel
  obtain ⟨hread, hsegments⟩ := segments_are_runs tokens line
  have hss : segments tokens line = .ok ss :=
    (hsegments _ hscan ss).2 ⟨rfl, by decide, by decide, by decide⟩
  exact ⟨hscan, hss, hread.1 ⟨ss, hss⟩⟩

/-- A line that is one number has no segments if the number is too long to be read. -/
theorem segments_of_ones :
    segments [(["Literal", "Number", "Integer"], ones)] ones = .error (.tooLongToRead 4301) := by
  rw [segments, categories, scan, readAll_ones]
  rfl

end Highlight

end Respell
