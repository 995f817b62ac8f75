/-
  Sets of code points as ascending lists of ranges.

  The character classes of the library are properties of the Unicode character database, version
  14.  Each is data: a list of closed ranges in ascending order.  `inRanges` looks a code point up
  and stops at the first range beyond it, so ASCII, which comes first, is found first.
-/

namespace Respell.Text

/-- Whether a code point lies in one of the ranges, which are in ascending order. -/
def inRanges (n : Nat) : List (Nat × Nat) → Bool
  | [] => false
  | (lo, hi) :: rest => if n < lo then false else if n ≤ hi then true else inRanges n rest

example : inRanges 5 [(1, 3), (5, 9)] = true ∧ inRanges 4 [(1, 3), (5, 9)] = false := by decide

theorem exists_range_of_inRanges {n : Nat} :
    {rs : List (Nat × Nat)} → inRanges n rs = true → ∃ r ∈ rs, r.1 ≤ n ∧ n ≤ r.2
  | [], h => by simp [inRanges] at h
  | (lo, hi) :: rest, h => by
    unfold inRanges at h
    split at h
    · simp at h
    · split at h
      · rename_i hlo hhi
        exact ⟨(lo, hi), by simp, by simpa using hlo, hhi⟩
      · obtain ⟨r, hr, hn⟩ := exists_range_of_inRanges h
        exact ⟨r, List.mem_cons_of_mem _ hr, hn⟩

end Respell.Text
