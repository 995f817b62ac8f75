/-
  Sorting a list by insertion.

  Each member is put in front of the first one that does not have to come before it, from the last
  member to the first.  This goes by recursion on the list, so that it can be computed inside of
  proofs.  `sortBy_eq_mergeSort` says that it gives what the sorting of the library gives; that
  nothing is lost, that the result is in order and that equals keep their order are lemmas there.
-/

namespace Respell

variable {α : Type}

/-- A list in order with one member put in, in front of its equals. -/
def insertBy (le : α → α → Bool) (a : α) : List α → List α
  | [] => [a]
  | b :: bs => if le a b then a :: b :: bs else b :: insertBy le a bs

/-- A list in order; members that compare equal keep their order. -/
def sortBy (le : α → α → Bool) : List α → List α
  | [] => []
  | a :: as => insertBy le a (sortBy le as)

example : sortBy (fun a b => a.1 ≤ b.1) [(2, 'a'), (1, 'b'), (2, 'c'), (1, 'd')] =
    [(1, 'b'), (1, 'd'), (2, 'a'), (2, 'c')] := by decide

/-- The place of a member is behind all that come before it. -/
theorem insertBy_append {le : α → α → Bool} {a : α} {cs : List α} (hcs : ∀ c ∈ cs, le a c = true) :
    {bs : List α} → (∀ b ∈ bs, le a b = false) → insertBy le a (bs ++ cs) = bs ++ a :: cs
  | [], _ => by
    cases cs with
    | nil => rfl
    | cons c cs => exact if_pos (hcs c List.mem_cons_self)
  | b :: bs, hbs => by
    obtain ⟨hb, hbs⟩ := List.forall_mem_cons.1 hbs
    rw [List.cons_append, insertBy, if_neg (Bool.eq_false_iff.1 hb), insertBy_append hcs hbs]
    rfl

/-- **Sorting by insertion is sorting.** -/
theorem sortBy_eq_mergeSort {le : α → α → Bool} (trans : ∀ a b c, le a b → le b c → le a c)
    (total : ∀ a b, le a b || le b a) : (as : List α) → sortBy le as = as.mergeSort le
  | [] => List.mergeSort_nil.symm
  | a :: as => by
    obtain ⟨bs, cs, hsorted, hrest, hbs⟩ := List.mergeSort_cons trans total a as
    have hpair := List.pairwise_mergeSort trans total (a :: as)
    rw [hsorted, List.pairwise_append, List.pairwise_cons] at hpair
    obtain ⟨-, ⟨hcs, -⟩, -⟩ := hpair
    rw [sortBy, sortBy_eq_mergeSort trans total as, hrest, hsorted]
    exact insertBy_append hcs fun b hb => Bool.not_eq_true' _ ▸ hbs b hb

end Respell
