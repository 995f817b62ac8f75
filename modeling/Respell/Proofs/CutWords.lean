/-
  The keyword that a kept literal stands behind.

  The guard is there for keywords of the document: `return` in front of a literal keeps it, the end of
  `noreturn` does not.  But it searches the window only, and takes the start of the window for the end
  of a word.  This file says behind which texts a literal is kept, in terms of the document.

  1. **The window from outside** (`follows_window_iff`).  A keyword that lies in the window has the same
     character in front of it there and in the document, unless it begins where the window does: then
     it has no character in front of it there, whatever the document has.

  2. **Kept literals** (`keeps_iff`).  So a literal is kept behind a whole word of the document, where
     there is room for it in the window, and in one more case: the window cuts a word in two, and the
     part in it is a keyword.
-/
import Respell.Proofs.LookBehind

namespace Respell.Guard

variable {keywords : List Text} {n : Nat} {p w : Text}

/-! ## The window from outside -/

/-- The character in front of `w` as the last `n` characters of `p ++ w` show it: the last one of `p`,
    or none if these characters are `w` itself. -/
def seenBefore (n : Nat) (p w : Text) : Option Char := if w.length = n then none else p.getLast?

theorem window_append (h : w.length ≤ n) :
    (p ++ w).drop ((p ++ w).length - n) = p.drop (p.length + w.length - n) ++ w := by
  rw [List.length_append, List.drop_append_of_le_length (by omega)]

theorem getLast?_window (h : w.length ≤ n) :
    (p.drop (p.length + w.length - n)).getLast? = seenBefore n p w := by
  rw [List.getLast?_drop, seenBefore]
  by_cases hw : w.length = n
  · rw [if_pos hw, if_pos (by omega)]
  · rw [if_neg hw]
    split
    · -- there is nothing in front of `w` at all
      have hp : p = [] := List.length_eq_zero_iff.1 (by omega)
      rw [hp, List.getLast?_nil]
    · rfl

/-- **The window from outside.**  The last `n` characters of a text end in a keyword if the text does,
    they have room for it, and the character that is seen in front of it makes a word boundary. -/
theorem follows_window_iff (n : Nat) (front : Text) :
    Follows keywords none (front.drop (front.length - n)) ↔
      ∃ p k s, front = p ++ (k ++ s) ∧ k ∈ keywords ∧ (∀ c ∈ s, Text.isBlank c = true) ∧
        (k ++ s).length ≤ n ∧ wordBefore (seenBefore n p (k ++ s)) ≠ wordBefore k.head? := by
  constructor
  · rintro ⟨q, k, s, hsplit, hk, hblank, hboundary⟩
    rw [Option.or_none] at hboundary
    have hroom : (k ++ s).length ≤ n := by
      have hlen := congrArg List.length hsplit
      rw [List.length_drop, List.length_append] at hlen
      omega
    have hfront : front = (front.take (front.length - n) ++ q) ++ (k ++ s) := by
      rw [List.append_assoc, ← hsplit, List.take_append_drop]
    refine ⟨_, k, s, hfront, hk, hblank, hroom, ?_⟩
    generalize front.take (front.length - n) ++ q = p at hfront
    subst hfront
    rw [window_append hroom] at hsplit
    rwa [← getLast?_window hroom, List.append_cancel_right hsplit]
  · rintro ⟨p, k, s, rfl, hk, hblank, hroom, hboundary⟩
    refine ⟨_, k, s, window_append hroom, hk, hblank, ?_⟩
    rwa [Option.or_none, getLast?_window hroom]

/-! ## Kept literals -/

/-- A keyword `k` of a list that stands in front of an offset, behind `p`, with only the blanks `s`
    between it and the offset. -/
structure Precedes (keywords : List Text) (t : Text) (offset : Int) (p k s : Text) : Prop where
  front : t.take offset.toNat = p ++ (k ++ s)
  mem : k ∈ keywords
  ne_nil : k ≠ []
  blank : ∀ c ∈ s, Text.isBlank c = true

theorem mem_keywords_make {keywords : List Text} {window : Int} {k : Text} :
    k ∈ (make keywords window).keywords ↔ k ∈ keywords ∧ k ≠ [] := by
  simp [make]

theorem nil_notMem_make (keywords : List Text) (window : Int) :
    [] ∉ (make keywords window).keywords := fun h => (mem_keywords_make.1 h).2 rfl

theorem keeps_iff_follows (keywords : List Text) (window : Int) (t : Text) {offset : Int}
    (hlow : 0 ≤ offset) (hhigh : offset ≤ t.length) :
    (make keywords window).allows t offset = false ↔
      ∃ p k s, Precedes keywords t offset p k s ∧ (k ++ s).length ≤ window.toNat ∧
        wordBefore (seenBefore window.toNat p (k ++ s)) ≠ wordBefore k.head? := by
  obtain ⟨i, rfl⟩ := Int.eq_ofNat_of_zero_le hlow
  have hlen : (t.take i).length = i := List.length_take_of_le (by omega)
  rw [keeps_iff_window (nil_notMem_make keywords window) (by omega)]
  have hwindow := @follows_window_iff (make keywords window).keywords window.toNat (t.take i)
  rw [hlen] at hwindow
  refine hwindow.trans ⟨?_, ?_⟩
  · rintro ⟨p, k, s, hfront, hk, hblank, hrest⟩
    obtain ⟨hmem, hne⟩ := mem_keywords_make.1 hk
    exact ⟨p, k, s, ⟨hfront, hmem, hne, hblank⟩, hrest⟩
  · rintro ⟨p, k, s, ⟨hfront, hmem, hne, hblank⟩, hrest⟩
    exact ⟨p, k, s, hfront, mem_keywords_make.2 ⟨hmem, hne⟩, hblank, hrest⟩

/-- **Kept literals.**  A literal is kept behind a whole keyword of the document for which the window has
    room (all but the character in front of it, which must be seen unless the keyword begins with a word
    character), and behind the end of a longer word that is a keyword and begins just where the window
    does. -/
theorem keeps_iff (keywords : List Text) (window : Int) (t : Text) {offset : Int}
    (hlow : 0 ≤ offset) (hhigh : offset ≤ t.length) :
    (make keywords window).allows t offset = false ↔
      (∃ p k s, Precedes keywords t offset p k s ∧ wordBefore p.getLast? ≠ wordBefore k.head? ∧
        (k ++ s).length ≤ window ∧ ((k ++ s).length = window → wordBefore k.head? = true)) ∨
      (∃ p k s, Precedes keywords t offset p k s ∧
        wordBefore p.getLast? = true ∧ wordBefore k.head? = true ∧ (k ++ s).length = window) := by
  rw [keeps_iff_follows keywords window t hlow hhigh]
  constructor
  · rintro ⟨p, k, s, hprec, hroom, hboundary⟩
    have hpos : 0 < (k ++ s).length := by
      rw [List.length_append]
      exact Nat.add_pos_left (List.length_pos_iff.2 hprec.ne_nil) _
    by_cases hfull : (k ++ s).length = window.toNat
    · -- the keyword begins where the window does, and no character is seen in front of it
      have hword : wordBefore k.head? = true := by
        rw [seenBefore, if_pos hfull] at hboundary
        exact Bool.eq_true_of_not_eq_false (Ne.symm hboundary)
      cases hp : wordBefore p.getLast? with
      | false => exact .inl ⟨p, k, s, hprec, by rw [hp, hword]; decide, by omega, fun _ => hword⟩
      | true => exact .inr ⟨p, k, s, hprec, hp, hword, by omega⟩
    · rw [seenBefore, if_neg hfull] at hboundary
      exact .inl ⟨p, k, s, hprec, hboundary, by omega, by omega⟩
  · rintro (⟨p, k, s, hprec, hboundary, hroom, hfull⟩ | ⟨p, k, s, hprec, -, hword, hfull⟩)
    · refine ⟨p, k, s, hprec, by omega, ?_⟩
      rw [seenBefore]
      split
      · rw [hfull (by omega)]
        decide
      · exact hboundary
    · refine ⟨p, k, s, hprec, by omega, ?_⟩
      rw [seenBefore, if_pos (by omega), hword]
      decide

/-- A keyword that is a whole word keeps the literal behind it. -/
theorem keeps_iff_return :
    0 ≤ (9 : Int) ∧ (9 : Int) ≤ "a return 42".toList.length ∧
      (make [['c', 'a', 's', 'e'], ['r', 'e', 't', 'u', 'r', 'n']] 20).allows "a return 42".toList 9 =
        false := by
  refine ⟨by decide, by decide, (keeps_iff _ 20 _ (by decide) (by decide)).2 (.inl ?_)⟩
  have hblank : ∀ c ∈ [' '], Text.isBlank c = true := List.forall_mem_singleton.2 rfl
  refine ⟨['a', ' '], "return".toList, [' '], ⟨?_, ?_, ?_, hblank⟩, ?_, ?_, ?_⟩ <;> decide

/-- The end of `noreturn` keeps a literal at the distance at which the window cuts the word behind `no`,
    though no keyword is a whole word in front of the literal. -/
theorem cut_word_keeps :
    default.allows "noreturn              5".toList 22 = false ∧
      ¬ ∃ p k s, Precedes (defaultKeywords.map (·.toList)) "noreturn              5".toList 22 p k s ∧
        wordBefore p.getLast? ≠ wordBefore k.head? := by
  refine ⟨by decide +kernel, ?_⟩
  rintro ⟨p, k, s, hprec, hboundary⟩
  have hnone : (lastKeyword? (defaultKeywords.map (·.toList)) none
      ("noreturn              5".toList.take (22 : Int).toNat)).isSome = false := by
    decide +kernel
  rw [Bool.eq_false_iff] at hnone
  refine hnone ((isSome_lastKeyword?_iff (by decide +kernel) none _).2 ?_)
  exact ⟨p, k, s, hprec.front, hprec.mem, hprec.blank, by rwa [Option.or_none]⟩

end Respell.Guard
