/-
  What the guard decides.

  The guard searches the window from left to right, and tries one keyword after another at each place.
  The rule behind it knows no search and no order: the window ends in a keyword, blanks aside, and just
  one of the two characters around the keyword's start belongs to a word.  This file states the rule by
  itself and proves that the guard decides it.

  1. **Word boundaries** (`boundary_iff`).  The start of the window counts as no word character, so the
     boundary is that just one of two things is true: a word character is the last one of what stands in
     front, and a word character is the first one of the keyword.

  2. **The rule** (`allows_make_iff`) is one for every text, so it can be asked of windows that lie in
     different texts, or at different offsets of one.
-/
import Respell.Proofs.CutWords

namespace Respell.Guard

variable {keywords : List Text} {p k w t : Text}

/-! ## Word boundaries -/

/-- Whether the last character of a text, if it has any, belongs to a word. -/
def EndsInWord (p : Text) : Prop := ∃ q c, p = q ++ [c] ∧ Text.isWord c = true

/-- Whether the first character of a text, if it has any, belongs to a word. -/
def StartsInWord (k : Text) : Prop := ∃ c q, k = c :: q ∧ Text.isWord c = true

theorem wordBefore_iff {o : Option Char} :
    wordBefore o = true ↔ ∃ c, o = some c ∧ Text.isWord c = true := by
  cases o <;> simp [wordBefore]

theorem wordBefore_getLast? : wordBefore p.getLast? = true ↔ EndsInWord p := by
  rw [wordBefore_iff]
  constructor
  · rintro ⟨c, hlast, hc⟩
    obtain ⟨q, rfl⟩ := List.getLast?_eq_some_iff.1 hlast
    exact ⟨q, c, rfl, hc⟩
  · rintro ⟨q, c, rfl, hc⟩
    exact ⟨c, List.getLast?_concat, hc⟩

theorem wordBefore_head? : wordBefore k.head? = true ↔ StartsInWord k := by
  simp only [wordBefore_iff, List.head?_eq_some_iff, StartsInWord, exists_and_right]

/-- **A word boundary** lies between two texts if just one of them has a word character there. -/
theorem boundary_iff :
    wordBefore p.getLast? ≠ wordBefore k.head? ↔ Xor (EndsInWord p) (StartsInWord k) := by
  rw [← wordBefore_getLast?, ← wordBefore_head?]
  cases wordBefore p.getLast? <;> cases wordBefore k.head? <;> simp [Xor]

/-! ## The rule -/

/-- Whether a text ends in a keyword, blanks aside, with a word boundary in front of the keyword. -/
def EndsInKeyword (keywords : List Text) (w : Text) : Prop :=
  ∃ k ∈ keywords, k ≠ [] ∧ ∃ p s, w = p ++ k ++ s ∧ (∀ c ∈ s, Text.isBlank c = true) ∧
    Xor (EndsInWord p) (StartsInWord k)

/-- The rule does not see the empty keywords that a guard leaves out. -/
theorem follows_make_iff (window : Int) :
    Follows (make keywords window).keywords none w ↔ EndsInKeyword keywords w := by
  simp only [Follows, Option.or_none, boundary_iff]
  constructor
  · rintro ⟨p, k, s, hsplit, hk, hblank, hboundary⟩
    obtain ⟨hmem, hne⟩ := mem_keywords_make.1 hk
    refine ⟨k, hmem, hne, p, s, ?_, hblank, hboundary⟩
    rw [hsplit, List.append_assoc]
  · rintro ⟨k, hmem, hne, p, s, hsplit, hblank, hboundary⟩
    refine ⟨p, k, s, ?_, mem_keywords_make.2 ⟨hmem, hne⟩, hblank, hboundary⟩
    rw [hsplit, List.append_assoc]

/-- More keywords keep more. -/
theorem EndsInKeyword.mono {keywords' : List Text} (h : EndsInKeyword keywords w)
    (hsub : keywords ⊆ keywords') : EndsInKeyword keywords' w := by
  obtain ⟨k, hk, hrest⟩ := h
  exact ⟨k, hsub hk, hrest⟩

/-- The `n` characters in front of an offset, or as many as there are. -/
def inFront (n : Nat) (t : Text) (offset : Nat) : Text := (t.take offset).drop (offset - n)

/-- **The guard decides the rule** of what stands in the window. -/
theorem allows_make_iff (keywords : List Text) (n : Nat) {offset : Nat} (h : offset ≤ t.length) :
    (make keywords n).allows t offset = false ↔ EndsInKeyword keywords (inFront n t offset) :=
  (keeps_iff_window (nil_notMem_make keywords n) h).trans (follows_make_iff n)

/-- **What the guard decides.**  A literal is kept if and only if the characters in front of it that are
    looked at are some text `p`, a keyword `k`, taken character by character, and blanks, and either `p`
    ends in a word character or `k` starts with one, but not both.  So without keywords nothing is kept,
    what some keywords keep is kept by them and others, and nothing counts but those characters. -/
theorem guard_decides_rule (keywords : List Text) (n : Nat) (t : Text) (offset : Nat)
    (h : offset ≤ t.length) :
    ((make keywords n).allows t offset = false ↔
      ∃ k ∈ keywords, k ≠ [] ∧ ∃ p s, inFront n t offset = p ++ k ++ s ∧
        (∀ c ∈ s, Text.isBlank c = true) ∧ Xor (EndsInWord p) (StartsInWord k)) ∧
    ((∀ k ∈ keywords, k = []) → (make keywords n).allows t offset = true) ∧
    (∀ keywords', keywords ⊆ keywords' → (make keywords n).allows t offset = false →
      (make keywords' n).allows t offset = false) ∧
    (∀ (n' : Nat) (t' : Text) (offset' : Nat), offset' ≤ t'.length →
      inFront n' t' offset' = inFront n t offset →
      (make keywords n').allows t' offset' = (make keywords n).allows t offset) := by
  have hrule := allows_make_iff keywords n h
  refine ⟨hrule, fun hempty => ?_, fun keywords' hsub hkept => ?_, fun n' t' offset' h' hsame => ?_⟩
  · refine Bool.eq_true_of_not_eq_false fun hkept => ?_
    obtain ⟨k, hk, hne, -⟩ := hrule.1 hkept
    exact hne (hempty k hk)
  · exact (allows_make_iff keywords' n h).2 ((hrule.1 hkept).mono hsub)
  · have hrule' := allows_make_iff keywords n' h'
    rw [hsame, ← hrule] at hrule'
    exact Bool.eq_iff_iff.2 (by rw [← Bool.not_eq_false, ← Bool.not_eq_false, hrule'])

/-- A keyword with a sign in it is seen as a whole word where the window begins with it, and is not where
    the window shows the word character in front of it. -/
theorem guard_decides_rule_cut_word :
    5 ≤ "xa+b 5".toList.length ∧
      (make ["a+b".toList, []] 4).allows "xa+b 5".toList 5 = false ∧
      (make ["yield".toList, "a+b".toList, []] 4).allows "xa+b 5".toList 5 = false ∧
      (make ["a+b".toList, []] 20).allows "a+b 5".toList 4 = false ∧
      ¬ EndsInKeyword ["a+b".toList, []] (inFront 20 "xa+b 5".toList 5) := by
  have hlength : 5 ≤ "xa+b 5".toList.length := by decide
  obtain ⟨hrule, -, hmore, hwindow⟩ :=
    guard_decides_rule ["a+b".toList, []] 4 "xa+b 5".toList 5 hlength
  have hblank : ∀ c ∈ [' '], Text.isBlank c = true := List.forall_mem_singleton.2 rfl
  have hstart : StartsInWord "a+b".toList := ⟨'a', ['+', 'b'], by decide, by decide⟩
  have hend : ¬ EndsInWord [] := by
    rintro ⟨q, c, hnil, -⟩
    exact List.append_ne_nil_of_right_ne_nil q (List.cons_ne_nil c []) hnil.symm
  have hkept : (make ["a+b".toList, []] 4).allows "xa+b 5".toList 5 = false :=
    hrule.2 ⟨"a+b".toList, by decide, by decide, [], [' '], by decide, hblank, .inr ⟨hstart, hend⟩⟩
  refine ⟨hlength, hkept, hmore _ (by decide) hkept, ?_, ?_⟩
  · exact (hwindow 20 "a+b 5".toList 4 (by decide) (by decide)).trans hkept
  · intro hends
    have hkept : (make ["a+b".toList, []] 20).allows "xa+b 5".toList 5 = false :=
      (guard_decides_rule _ 20 _ 5 hlength).1.2 hends
    revert hkept
    decide +kernel

end Respell.Guard
