/-
  What the guard sees behind a literal.

  The guard looks at a window of characters in front of a literal.  When other literals are respelled
  these characters move: more or fewer of the text in front come into the window, and the numerals in it
  are different ones.  This file proves that the guard does not notice.

  1. **The rule** (`Guard.Follows`): a text ends in a keyword behind a word boundary, blanks aside.  The
     search from left to right finds a keyword just where the rule says that there is one
     (`isSome_lastKeyword?_iff`), so all that follows is a matter of taking texts apart.

  2. **The window** (`look_append`) is the end of the text in front.

  3. **A numeral in the way** (`allows_behind`).  The keyword would have to stand in front of the gap,
     across its start, or inside.  A keyword of word characters that no numeral has all of cannot be the
     end of a text that ends in a numeral by itself; nor can it begin in the numeral and go on in the
     gap, which begins with no word character.  So a guard with such keywords sees what it would see if
     the gap stood at the start of the text.
-/
import Respell.Proofs.Grammar

namespace Respell

open Literal (isWordChar beginsWord endsWord)
open Numeral (IsNumeral)

namespace Guard

variable {keywords : List Text} {w : Text}

/-! ## The rule -/

/-- Whether a text behind a character, if any, ends in a keyword and blanks, with a word boundary in
    front of the keyword. -/
def Follows (keywords : List Text) (prev : Option Char) (w : Text) : Prop :=
  ∃ p k s, w = p ++ (k ++ s) ∧ k ∈ keywords ∧ (∀ c ∈ s, Text.isBlank c = true) ∧
    wordBefore (p.getLast?.or prev) ≠ wordBefore k.head?

theorem endsWith_iff {t k : Text} :
    endsWith t k = true ↔ ∃ s, t = k ++ s ∧ ∀ c ∈ s, Text.isBlank c = true := by
  rw [endsWith, Bool.and_eq_true, List.isPrefixOf_iff_prefix, List.all_eq_true]
  constructor
  · rintro ⟨⟨s, rfl⟩, hblank⟩
    rw [List.drop_left] at hblank
    exact ⟨s, rfl, hblank⟩
  · rintro ⟨s, rfl, hblank⟩
    rw [List.drop_left]
    exact ⟨⟨s, rfl⟩, hblank⟩

theorem getLast?_cons_or (c : Char) (p : Text) (prev : Option Char) :
    (c :: p).getLast?.or prev = p.getLast?.or (some c) := by
  rw [List.getLast?_cons]
  cases p.getLast? <;> rfl

/-- A text has a keyword at its end if it begins with the last one or the rest of it has one. -/
theorem follows_cons {prev : Option Char} {c : Char} {t : Text} (hne : [] ∉ keywords) :
    Follows keywords prev (c :: t) ↔
      (wordBefore prev ≠ Text.isWord c ∧ ∃ k ∈ keywords, endsWith (c :: t) k = true) ∨
        Follows keywords (some c) t := by
  constructor
  · rintro ⟨p, k, s, hsplit, hk, hblank, hboundary⟩
    cases p with
    | nil =>
      left
      obtain ⟨a, k, rfl⟩ := List.exists_cons_of_ne_nil (ne_of_mem_of_not_mem hk hne)
      obtain rfl : c = a := (List.cons.inj hsplit).1
      exact ⟨hboundary, _, hk, endsWith_iff.2 ⟨s, hsplit, hblank⟩⟩
    | cons a p =>
      right
      obtain ⟨rfl, hrest⟩ := List.cons.inj hsplit
      rw [getLast?_cons_or] at hboundary
      exact ⟨p, k, s, hrest, hk, hblank, hboundary⟩
  · rintro (⟨hboundary, k, hk, hends⟩ | ⟨p, k, s, rfl, hk, hblank, hboundary⟩)
    · obtain ⟨s, hsplit, hblank⟩ := endsWith_iff.1 hends
      refine ⟨[], k, s, hsplit, hk, hblank, ?_⟩
      obtain ⟨a, k, rfl⟩ := List.exists_cons_of_ne_nil (ne_of_mem_of_not_mem hk hne)
      obtain rfl : c = a := (List.cons.inj hsplit).1
      exact hboundary
    · refine ⟨c :: p, k, s, rfl, hk, hblank, ?_⟩
      rwa [getLast?_cons_or]

/-- **The search finds a keyword just where the rule has one.** -/
theorem isSome_lastKeyword?_iff (hne : [] ∉ keywords) (prev : Option Char) (w : Text) :
    (lastKeyword? keywords prev w).isSome = true ↔ Follows keywords prev w := by
  induction w generalizing prev with
  | nil =>
    constructor
    · intro h
      cases h
    · rintro ⟨p, k, s, hsplit, hk, -, -⟩
      have hnil : k = [] := (List.append_eq_nil_iff.1 (List.append_eq_nil_iff.1 hsplit.symm).2).1
      exact absurd (hnil ▸ hk) hne
  | cons c t ih =>
    rw [follows_cons hne, ← ih (some c), lastKeyword?]
    by_cases hboundary : wordBefore prev ≠ Text.isWord c
    · rw [if_pos (bne_iff_ne.2 hboundary)]
      cases hfind : keywords.find? (endsWith (c :: t)) with
      | some k =>
        have hfound : ∃ k ∈ keywords, endsWith (c :: t) k = true :=
          ⟨k, List.mem_of_find?_eq_some hfind, List.find?_some hfind⟩
        simp [hboundary, hfound]
      | none =>
        have hnone : ¬ ∃ k ∈ keywords, endsWith (c :: t) k = true := by
          rintro ⟨k, hk, hends⟩
          exact List.find?_eq_none.1 hfind k hk hends
        simp [hnone]
    · rw [if_neg (mt bne_iff_ne.1 hboundary)]
      simp [hboundary]

/-! ## The window -/

/-- The window is the end of the text in front. -/
theorem look_append (g : Guard) (front rest : Text) :
    g.look (front ++ rest) front.length = front.drop (front.length - g.window.toNat) := by
  have hle : front.length ≤ (front ++ rest).length := by
    rw [List.length_append]
    omega
  obtain ⟨n, hn⟩ : ∃ n : Nat, max 0 ((front.length : Int) - g.window) = n :=
    Int.eq_ofNat_of_zero_le (Int.le_max_left _ _)
  rw [look, Text.slice, Text.before, Text.place_natCast hle, List.take_left, hn]
  by_cases hn' : n ≤ front.length
  · rw [Text.place_natCast (Nat.le_trans hn' hle)]
    congr 1
    omega
  · -- a window of less than nothing
    have hwindow : g.window < 0 := by omega
    have hplace : front.length ≤ Text.place (front ++ rest).length n := by
      unfold Text.place
      split <;> omega
    rw [List.drop_eq_nil_of_le hplace, List.drop_eq_nil_of_le (by omega)]

theorem allows_iff {g : Guard} (hne : [] ∉ g.keywords) (front rest : Text) :
    g.allows (front ++ rest) front.length = true ↔
      ¬ Follows g.keywords none (front.drop (front.length - g.window.toNat)) := by
  rw [allows, blocking?, look_append, ← isSome_lastKeyword?_iff hne, Option.isNone_iff_eq_none,
    Option.not_isSome_iff_eq_none]

/-- **A literal is kept** just where the rule holds of the characters in front of it. -/
theorem keeps_iff_window {g : Guard} (hne : [] ∉ g.keywords) {t : Text} {i : Nat} (h : i ≤ t.length) :
    g.allows t i = false ↔
      Follows g.keywords none ((t.take i).drop (i - g.window.toNat)) := by
  have hlength : (t.take i).length = i := List.length_take_of_le h
  have hiff := allows_iff hne (t.take i) (t.drop i)
  rw [List.take_append_drop, hlength] at hiff
  rw [← Bool.not_eq_true, hiff, not_not]

/-! ## A numeral in the way -/

/-- Whether a character can stand in a numeral, as a digit or as the letter of a marker. -/
def inNumeral (c : Char) : Bool := Base.hex.hasDigit c || (Numeral.markedBase? c).isSome

/-- Whether each keyword of a guard is made of word characters, of which no numeral has all. -/
def Plain (g : Guard) : Prop :=
  ∀ k ∈ g.keywords, (∀ c ∈ k, isWordChar c = true) ∧ ∃ c ∈ k, inNumeral c = false

theorem plain_default : default.Plain := by
  have hall : (default.keywords.all fun k => k.all isWordChar && k.any (!inNumeral ·)) = true := by
    decide +kernel
  simpa [Plain] using hall

theorem Plain.nil_notMem {g : Guard} (h : g.Plain) : [] ∉ g.keywords := by
  intro hmem
  obtain ⟨c, hc, -⟩ := (h [] hmem).2
  cases hc

theorem inNumeral_of_hasDigit {b : Base} {c : Char} (h : b.hasDigit c = true) : inNumeral c = true := by
  have hhex : Base.hex.hasDigit c = true := by
    have hradix := b.radix_le_sixteen
    unfold Base.hasDigit at h ⊢
    split at h
    · have hd := of_decide_eq_true h
      exact decide_eq_true (show _ < 16 by omega)
    · cases h
  rw [inNumeral, hhex, Bool.true_or]

theorem inNumeral_of_mem {s : Text} (h : IsNumeral s) : ∀ c ∈ s, inNumeral c = true := by
  intro c hc
  rcases Numeral.isNumeral_iff.1 h with ⟨a, b, ds, rfl, ha, hds⟩ | hds
  · rcases List.mem_cons.1 hc with rfl | hc
    · decide
    · rcases List.mem_cons.1 hc with rfl | hc
      · rw [inNumeral, ha, Option.isSome_some, Bool.or_true]
      · exact inNumeral_of_hasDigit ((Numeral.isRun_iff.1 hds).2 c hc)
  · exact inNumeral_of_hasDigit ((Numeral.isRun_iff.1 hds).2 c hc)

/-- No blank belongs to an ASCII word. -/
theorem isBlank_of_isWordChar {c : Char} (h : isWordChar c = true) : Text.isBlank c = false := by
  have hrange : 48 ≤ c.toNat ∧ c.toNat ≤ 122 := by
    have h : (((decide (c.val ≥ 65 ∧ c.val ≤ 90) || (c.val ≥ 97 && c.val ≤ 122)) ||
      (c.val ≥ 48 && c.val ≤ 57)) || decide (c = '_')) = true := h
    simp only [Bool.or_eq_true, Bool.and_eq_true, decide_eq_true_eq, ge_iff_le,
      UInt32.le_iff_toNat_le] at h
    show 48 ≤ c.val.toNat ∧ c.val.toNat ≤ 122
    rcases h with ((h | h) | h) | rfl
    · exact ⟨Nat.le_trans (by decide) h.1, Nat.le_trans h.2 (by decide)⟩
    · exact ⟨Nat.le_trans (by decide) h.1, h.2⟩
    · exact ⟨h.1, Nat.le_trans h.2 (by decide)⟩
    · decide
  by_contra hblank
  obtain ⟨r, hr, hlo, hhi⟩ := Text.exists_range_of_inRanges (Bool.not_eq_false _ ▸ hblank)
  have hapart : ∀ r ∈ Text.blankRanges, r.2 < 48 ∨ 122 < r.1 := by decide
  have hr := hapart r hr
  omega

/-- Whether a text in front of a gap is empty or ends in a numeral with no word character in front. -/
def Settled (front : Text) : Prop :=
  front = [] ∨ ∃ a s, front = a ++ s ∧ endsWord false a = false ∧ IsNumeral s

variable {front : Text}

/-- No end of the text in front is a plain keyword. -/
theorem Settled.notMem_keywords {g : Guard} (hg : g.Plain) (h : Settled front) {k : Text}
    (hk : k <:+ front) : k ∉ g.keywords := by
  intro hmem
  obtain ⟨hword, c, hc, hforeign⟩ := hg k hmem
  rcases h with rfl | ⟨a, s, rfl, hopen, hs⟩
  · rw [List.suffix_nil.1 hk] at hc
    cases hc
  · rcases List.suffix_or_suffix_of_suffix hk (List.suffix_append a s) with hin | ⟨b, rfl⟩
    · -- the keyword would be a part of the numeral
      rw [inNumeral_of_mem hs c (hin.mem hc)] at hforeign
      cases hforeign
    · rcases b.eq_nil_or_concat with rfl | ⟨b, x, rfl⟩
      · rw [inNumeral_of_mem hs c hc] at hforeign
        cases hforeign
      · -- the keyword would hold the character in front of the numeral
        obtain ⟨u, hu⟩ := hk
        have ha : u ++ b.concat x = a := List.append_cancel_right (by rw [List.append_assoc, hu])
        have hlast : a.getLast? = some x := by rw [← ha, List.concat_eq_append]; simp
        have hx : isWordChar x = true := hword x (by simp)
        rw [Literal.endsWord_eq_false_iff.1 hopen x hlast] at hx
        cases hx

/-- The text in front of a gap ends in no blank. -/
theorem Settled.isBlank_getLast {c : Char} (h : Settled front) (hc : front.getLast? = some c) :
    Text.isBlank c = false := by
  rcases h with rfl | ⟨a, s, rfl, -, hs⟩
  · cases hc
  · rw [List.getLast?_append_of_ne_nil a hs.ne_nil] at hc
    exact isBlank_of_isWordChar (Literal.isWordChar_of_mem_numeral hs c (List.mem_of_getLast? hc))

/-- **The guard sees no more than the gap** if its keywords are plain, whatever part of the text in
    front comes into the window with the gap. -/
theorem follows_behind {g : Guard} (hg : g.Plain) (h : Settled front) {u gap : Text} (hu : u <:+ front)
    (hgap : u = [] ∨ beginsWord gap = false) :
    Follows g.keywords none (u ++ gap) ↔ Follows g.keywords none gap := by
  rcases hgap with rfl | hgap
  · rfl
  -- the gap begins with no character of a keyword
  have hstart : ∀ {x y z k : Text}, gap = y ++ z → k = x ++ y → k ∈ g.keywords → y = [] := by
    rintro x y z k rfl rfl hk
    cases y with
    | nil => rfl
    | cons c y =>
      have hc : isWordChar c = true := (hg _ hk).1 c (by simp)
      rw [List.cons_append, beginsWord, hc] at hgap
      cases hgap
  constructor
  · rintro ⟨p, k, s, hsplit, hk, hblank, hboundary⟩
    have hne : k ≠ [] := ne_of_mem_of_not_mem hk hg.nil_notMem
    rcases List.append_eq_append_iff.1 hsplit with ⟨q, rfl, hrest⟩ | ⟨q, rfl, hrest⟩
    · -- the keyword lies in the gap, and not at its start
      have hq : q ≠ [] := by
        rintro rfl
        exact hne (hstart (x := []) hrest rfl hk)
      rw [List.getLast?_append_of_ne_nil u hq] at hboundary
      exact ⟨q, k, s, hrest, hk, hblank, hboundary⟩
    · have hq : q <:+ front := (List.suffix_append p q).trans hu
      exfalso
      rcases List.append_eq_append_iff.1 hrest with ⟨r, rfl, rfl⟩ | ⟨r, rfl, hr⟩
      · rcases r.eq_nil_or_concat with rfl | ⟨r, c, rfl⟩
        · rw [List.append_nil] at hq
          exact h.notMem_keywords hg hq hk
        · -- a blank would stand at the end of the text in front
          obtain ⟨x, rfl⟩ := hq
          have hlast := h.isBlank_getLast (c := c) (by simp)
          rw [hblank c (by simp)] at hlast
          cases hlast
      · obtain rfl := hstart hr rfl hk
        rw [List.append_nil] at hk
        exact h.notMem_keywords hg hq hk
  · rintro ⟨p, k, s, rfl, hk, hblank, hboundary⟩
    have hne : k ≠ [] := ne_of_mem_of_not_mem hk hg.nil_notMem
    have hp : p ≠ [] := by
      rintro rfl
      exact hne (hstart (x := []) rfl rfl hk)
    refine ⟨u ++ p, k, s, (List.append_assoc u p _).symm, hk, hblank, ?_⟩
    rwa [List.getLast?_append_of_ne_nil u hp]

/-- **A numeral in the way.**  Behind a text that ends in a numeral a guard with plain keywords allows
    what it allows where the gap stands at the start of the text. -/
theorem allows_behind {g : Guard} (hg : g.Plain) (h : Settled front) {gap : Text}
    (hgap : front = [] ∨ beginsWord gap = false) (rest : Text) :
    g.allows (front ++ gap ++ rest) (front ++ gap).length = g.allows gap gap.length := by
  have hself := allows_iff hg.nil_notMem gap []
  rw [List.append_nil] at hself
  rw [Bool.eq_iff_iff, allows_iff hg.nil_notMem, hself, not_iff_not, List.length_append]
  have hoffset : front.length + gap.length - g.window.toNat - front.length =
      gap.length - g.window.toNat := by omega
  rw [List.drop_append, hoffset]
  refine follows_behind hg h (List.drop_suffix _ _) ?_
  by_cases hwindow : g.window.toNat ≤ gap.length
  · -- nothing of the text in front comes into the window
    exact .inl (List.drop_eq_nil_of_le (by omega))
  · rcases hgap with rfl | hgap
    · exact .inl (List.drop_nil)
    · have hall : gap.length - g.window.toNat = 0 := by omega
      rw [hall, List.drop_zero]
      exact .inr hgap

end Guard

end Respell
