/-
  Results that can fail.

  1. **In lists.**  A pass over a list may produce a result for each member, some of them failures.
     `allOf` is the list of values if none fails and otherwise the first failure.  Of two lists one
     behind the other the second matters only if nothing in the first fails (`allOf_append`).

  2. **With a state.**  An operation on a state may fail after it has changed a part of it.  An
     `Attempt` keeps both: the state that the operation leaves behind, and its result.
-/

namespace Respell

/-- Two results are equal when both succeed with one value or both fail for one reason. -/
instance decidableEqExcept [DecidableEq ε] [DecidableEq α] : DecidableEq (Except ε α)
  | .ok a, .ok b => decidable_of_iff (a = b) (by simp)
  | .error a, .error b => decidable_of_iff (a = b) (by simp)
  | .ok _, .error _ => isFalse (by simp)
  | .error _, .ok _ => isFalse (by simp)

theorem exists_of_map_eq_ok {x : Except ε α} {f : α → β} {b : β} (h : x.map f = .ok b) :
    ∃ a, x = .ok a ∧ f a = b := by
  cases x with
  | error e => cases h
  | ok a => exact ⟨a, rfl, Except.ok.inj h⟩

theorem exists_of_bind_eq_ok {x : Except ε α} {f : α → Except ε β} {b : β} (h : x.bind f = .ok b) :
    ∃ a, x = .ok a ∧ f a = .ok b := by
  cases x with
  | error e => cases h
  | ok a => exact ⟨a, rfl, h⟩

/-- The values of a list of results, or its first failure. -/
def allOf : List (Except ε α) → Except ε (List α)
  | [] => .ok []
  | .error e :: _ => .error e
  | .ok a :: rest => (allOf rest).map (a :: ·)

example : allOf [.ok 1, .error 'a', .error 'b', .ok 2] = (.error 'a' : Except Char (List Nat)) := by
  decide

/-- The values in front of the first failure of a list of results. -/
def okPart : List (Except ε α) → List α
  | .ok a :: rest => a :: okPart rest
  | _ => []

theorem allOf_map_ok (as : List α) : allOf (as.map (.ok : α → Except ε α)) = .ok as := by
  induction as with
  | nil => rfl
  | cons a as ih => simp [allOf, ih, Except.map]

/-- A list of results has values only if all of it does. -/
theorem eq_map_ok_of_allOf {xs : List (Except ε α)} {as : List α} (h : allOf xs = .ok as) :
    xs = as.map .ok := by
  induction xs generalizing as with
  | nil =>
    obtain rfl : [] = as := Except.ok.inj h
    rfl
  | cons x xs ih =>
    cases x with
    | error e => cases h
    | ok a =>
      simp only [allOf] at h
      cases hxs : allOf xs with
      | error e => rw [hxs] at h; cases h
      | ok bs =>
        rw [hxs] at h
        obtain rfl : a :: bs = as := Except.ok.inj h
        rw [ih hxs, List.map_cons]

theorem allOf_map (f : α → β) (xs : List (Except ε α)) :
    allOf (xs.map (·.map f)) = (allOf xs).map (List.map f) := by
  induction xs with
  | nil => rfl
  | cons x xs ih =>
    cases x with
    | error e => rfl
    | ok a =>
      show (allOf (xs.map (·.map f))).map (f a :: ·) = ((allOf xs).map (a :: ·)).map (List.map f)
      rw [ih]
      cases allOf xs <;> rfl

theorem allOf_append (xs ys : List (Except ε α)) :
    allOf (xs ++ ys) = (allOf xs).bind fun as => (allOf ys).map (as ++ ·) := by
  induction xs with
  | nil =>
    show allOf ys = (allOf ys).map ([] ++ ·)
    cases allOf ys <;> rfl
  | cons x xs ih =>
    cases x with
    | error e => rfl
    | ok a =>
      show (allOf (xs ++ ys)).map (a :: ·) = ((allOf xs).map (a :: ·)).bind _
      rw [ih]
      cases allOf xs with
      | error e => rfl
      | ok as => cases allOf ys <;> rfl

/-- One list of results after another, or all of them as one list. -/
theorem allOf_flatten (xss : List (List (Except ε α))) :
    allOf xss.flatten = (allOf (xss.map allOf)).map List.flatten := by
  induction xss with
  | nil => rfl
  | cons xs xss ih =>
    rw [List.flatten_cons, allOf_append, ih, List.map_cons]
    cases allOf xs with
    | error e => rfl
    | ok as =>
      show ((allOf (xss.map allOf)).map List.flatten).map (as ++ ·) =
        ((allOf (xss.map allOf)).map (as :: ·)).map List.flatten
      cases allOf (xss.map allOf) <;> rfl

/-- Results for the members of a list, each with its number. -/
theorem allOf_zipIdx {ε α β γ : Type} (f : α → Except ε β) (g : Nat → β → γ) (as : List α) (k : Nat) :
    allOf ((as.zipIdx k).map fun x => (f x.1).map (g x.2)) =
      (allOf (as.map f)).map fun bs => (bs.zipIdx k).map fun y => g y.2 y.1 := by
  induction as generalizing k with
  | nil => rfl
  | cons a as ih =>
    rw [List.zipIdx_cons, List.map_cons, List.map_cons]
    cases f a with
    | error e => rfl
    | ok b =>
      show (allOf ((as.zipIdx (k + 1)).map fun x => (f x.1).map (g x.2))).map (g k b :: ·) =
        ((allOf (as.map f)).map (b :: ·)).map _
      rw [ih]
      cases allOf (as.map f) <;> rfl

/-- A list of results has values if each of them has one. -/
theorem exists_allOf_iff {xs : List (Except ε α)} :
    (∃ as, allOf xs = .ok as) ↔ ∀ x ∈ xs, ∃ a, x = .ok a := by
  constructor
  · rintro ⟨as, h⟩ x hx
    rw [eq_map_ok_of_allOf h] at hx
    obtain ⟨a, -, rfl⟩ := List.mem_map.1 hx
    exact ⟨a, rfl⟩
  · intro h
    induction xs with
    | nil => exact ⟨[], rfl⟩
    | cons x xs ih =>
      obtain ⟨⟨a, rfl⟩, hxs⟩ := List.forall_mem_cons.1 h
      obtain ⟨as, has⟩ := ih hxs
      exact ⟨a :: as, by rw [allOf, has]; rfl⟩

/-- Results that are worked on have values if they have some that can be worked on. -/
theorem allOf_map_bind {f : α → Except ε β} {xs : List (Except ε α)} {bs : List β} :
    allOf (xs.map (·.bind f)) = .ok bs ↔ ∃ as, allOf xs = .ok as ∧ allOf (as.map f) = .ok bs := by
  constructor
  · intro h
    have hmap := eq_map_ok_of_allOf h
    obtain ⟨as, has⟩ : ∃ as, allOf xs = .ok as := by
      refine exists_allOf_iff.2 fun x hx => ?_
      have hmem : x.bind f ∈ bs.map .ok := hmap ▸ List.mem_map_of_mem hx
      obtain ⟨b, -, hb⟩ := List.mem_map.1 hmem
      cases x with
      | error e => cases hb
      | ok a => exact ⟨a, rfl⟩
    refine ⟨as, has, ?_⟩
    rw [eq_map_ok_of_allOf has, List.map_map] at h
    exact h
  · rintro ⟨as, has, h⟩
    rw [eq_map_ok_of_allOf has, List.map_map]
    exact h

/-- What an operation leaves behind, whether it succeeds or not, and its result. -/
structure Attempt (σ ε α : Type) where
  state : σ
  result : Except ε α
  deriving DecidableEq

namespace Attempt

/-- An operation that succeeds. -/
def done (s : σ) (a : α) : Attempt σ ε α := ⟨s, .ok a⟩

/-- An operation that fails. -/
def failed (s : σ) (e : ε) : Attempt σ ε α := ⟨s, .error e⟩

/-- One operation and then, if it succeeds, another. -/
def andThen (x : Attempt σ ε α) (f : σ → α → Attempt σ ε β) : Attempt σ ε β :=
  match x.result with
  | .ok a => f x.state a
  | .error e => ⟨x.state, .error e⟩

end Attempt

end Respell
