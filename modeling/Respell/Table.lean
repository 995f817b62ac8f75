/-
  Tables: keys with values, in the order in which the keys were first put in.

  Putting a key that is there replaces its value and leaves its place; a new key goes to the end.
  So the keys of a table are distinct, and `get?_set` says what a look-up finds after a `set`.
-/

namespace Respell

/-- Keys with values, in the order of their first insertion. -/
abbrev Table (κ α : Type) := List (κ × α)

namespace Table

variable {κ α : Type} [DecidableEq κ]

/-- The table with the value of one key put in or replaced. -/
def set (k : κ) (a : α) : Table κ α → Table κ α
  | [] => [(k, a)]
  | (k', b) :: rest => if k' = k then (k', a) :: rest else (k', b) :: set k a rest

/-- The value of a key. -/
def get? (k : κ) : Table κ α → Option α
  | [] => none
  | (k', b) :: rest => if k' = k then some b else get? k rest

/-- The table that a list of entries makes, later entries replacing earlier ones. -/
def ofEntries (es : List (κ × α)) : Table κ α := es.foldl (fun t e => set e.1 e.2 t) []

example : ofEntries [('a', 1), ('b', 2), ('a', 3)] = [('a', 3), ('b', 2)] := by decide

theorem get?_set (k j : κ) (a : α) (t : Table κ α) :
    get? j (set k a t) = if k = j then some a else get? j t := by
  induction t with
  | nil => simp [set, get?]
  | cons e rest ih =>
    by_cases h : e.1 = k
    · subst h
      by_cases hj : e.1 = j <;> simp [set, get?, hj]
    · by_cases hj : e.1 = j
      · have hk : ¬ j = k := fun e' => h (hj.trans e')
        simp [set, get?, hj, hk, Ne.symm hk]
      · simp [set, get?, h, hj, ih]

end Table

end Respell
