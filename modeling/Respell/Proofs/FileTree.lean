/-
  What is found in a tree of files after something has been written.

  1. **Places.**  An entry that is put at a place is found there, and at all other places is found what
     was there (`entryAt_put`).  The directories that are always there cannot be hidden.

  2. **Path names.**  A path name is walked through directories only, so that it leads to the same place
     after a file has been written where no directory is (`placeBut_put`).

  3. **Writing** (`find_write`, `read_write`).  A file is found with its bytes under the name that it was
     written to.  All other files stay (`read_write_of_ne`), also when bytes are put at the end of one
     (`read_append`).
-/
import Respell.Files
import Respell.Outcome

namespace Respell.Files

variable {fs fs' : Files} {p q : Place} {x : Entry} {path : String} {bytes : List UInt8}

/-! ## Places -/

/-- What is found in entries of which those at one place are replaced. -/
theorem lookup_map_put (es : List (Place × Entry)) (p q : Place) (x : Entry) :
    (es.map fun e => if e.1 = p then (p, x) else e).lookup q =
      if q = p then (if es.any (·.1 = p) then some x else none) else es.lookup q := by
  induction es with
  | nil =>
    rw [List.map_nil, List.lookup_nil]
    split <;> rfl
  | cons e es ih =>
    obtain ⟨r, y⟩ := e
    rw [List.map_cons, List.any_cons]
    by_cases hr : r = p
    · subst hr
      by_cases hq : q = r
      · subst hq
        simp
      · have hne : (q == r) = false := beq_false_of_ne hq
        rw [if_pos rfl, List.lookup_cons, List.lookup_cons, hne, ih, if_neg hq, if_neg hq]
    · rw [if_neg hr, List.lookup_cons, List.lookup_cons, ih]
      by_cases hq : q = p
      · subst hq
        have hne : (q == r) = false := beq_false_of_ne (Ne.symm hr)
        rw [hne, if_pos rfl, if_pos rfl]
        simp only [hr, decide_false, Bool.false_or]
      · rw [if_neg hq, if_neg hq]

theorem lookup_put (fs : Files) (p q : Place) (x : Entry) :
    (fs.put p x).entries.lookup q = if q = p then some x else fs.entries.lookup q := by
  unfold put
  dsimp only
  split
  · rename_i hany
    rw [lookup_map_put, if_pos hany]
  · rename_i hnone
    have hfresh : fs.entries.lookup p = none := by
      rw [List.lookup_eq_none_iff]
      intro e he
      rw [bne_iff_ne]
      intro hp
      exact hnone (List.any_eq_true.2 ⟨e, he, decide_eq_true hp.symm⟩)
    rw [List.lookup_append]
    by_cases hq : q = p
    · subst hq
      rw [hfresh, if_pos rfl]
      simp
    · have hne : (q == p) = false := beq_false_of_ne hq
      rw [if_neg hq, List.lookup_cons, hne]
      simp

/-- A place that is always a directory. -/
abbrev IsFixed (p : Place) : Prop := isAbove p ∨ p = ["/"]

/-- **What is at a place** after something has been put at one. -/
theorem entryAt_put (fs : Files) (p q : Place) (x : Entry) :
    entry? (fs.put p x) q = if q = p ∧ ¬ IsFixed p then some x else fs.entry? q := by
  unfold entry?
  by_cases hq : q = p
  · subst hq
    by_cases hfixed : IsFixed q
    · rw [if_pos hfixed, if_neg fun h : q = q ∧ ¬ IsFixed q => h.2 hfixed, if_pos hfixed]
    · rw [if_neg hfixed, if_pos ⟨rfl, hfixed⟩, lookup_put, if_pos rfl]
  · rw [lookup_put, if_neg hq, if_neg fun h : q = p ∧ ¬ IsFixed p => hq h.1]

theorem entryAt_of_isFixed (h : IsFixed p) : fs.entry? p = some .directory := if_pos h

/-! ## Path names -/

theorem enter_eq_ok {r : Place} : fs.enter p = .ok r ↔ r = p ∧ fs.entry? p = some .directory := by
  unfold enter
  split
  · rename_i h
    simp [h]
  · rename_i h
    simp [h]
  · rename_i h
    simp [h, eq_comm]

/-- What is not a directory is never walked through. -/
theorem walk_put {names : List String} {r : Place} (hp : fs.entry? p ≠ some .directory)
    (h : fs.walk q names = .ok r) : (fs.put p x).walk q names = .ok r := by
  induction names generalizing q with
  | nil => exact h
  | cons name names ih =>
    unfold walk at h ⊢
    cases henter : fs.enter q with
    | error c =>
      rw [henter] at h
      cases h
    | ok q' =>
      obtain ⟨rfl, hdirectory⟩ := enter_eq_ok.1 henter
      -- What is entered is a directory, so that nothing was put there.
      have hne : q' ≠ p := fun hsame => hp (hsame ▸ hdirectory)
      have henter' : (fs.put p x).enter q' = .ok q' := by
        rw [enter_eq_ok, entryAt_put, if_neg (fun h => hne h.1)]
        exact ⟨rfl, hdirectory⟩
      rw [henter] at h
      rw [henter']
      dsimp only at h ⊢
      split at h
      · cases h
      · rename_i hsize
        rw [if_neg hsize]
        exact ih h

theorem placeBut_put {n : Nat} {r : Place} (hp : fs.entry? p ≠ some .directory)
    (h : fs.placeBut n path = .ok r) : (fs.put p x).placeBut n path = .ok r := by
  unfold placeBut at h ⊢
  dsimp only at h ⊢
  split at h
  · cases h
  · exact walk_put hp h

/-! ## Writing -/

/-- **A file is written** where its name leads, if there is no directory. -/
theorem write_eq_ok (h : fs.write path bytes = .ok fs') :
    ∃ p, fs.place path = .ok p ∧ fs.entry? p ≠ some .directory ∧ endOf path = .name ∧
      fs' = fs.put p (.file bytes) := by
  unfold write at h
  cases htarget : fs.target path with
  | error c =>
    rw [htarget] at h
    cases h
  | ok p =>
    rw [htarget] at h
    obtain rfl := Except.ok.inj h
    unfold target at htarget
    split at htarget
    · rename_i hname
      obtain ⟨q, hplace, htarget⟩ := exists_of_bind_eq_ok htarget
      split at htarget
      · cases htarget
      · obtain rfl := Except.ok.inj htarget
        exact ⟨q, hplace, ‹_›, hname, rfl⟩
    · obtain ⟨q, -, hfailed⟩ := exists_of_bind_eq_ok htarget
      cases hfailed
    · obtain ⟨q, -, hfailed⟩ := exists_of_bind_eq_ok htarget
      cases hfailed

/-- **A file that was written is found** under its name. -/
theorem find_write (h : fs.write path bytes = .ok fs') : fs'.find path = .ok (.file bytes) := by
  obtain ⟨p, hplace, hentry, hname, rfl⟩ := write_eq_ok h
  have hfree : ¬ IsFixed p := fun hfixed => hentry (entryAt_of_isFixed hfixed)
  have hplace' : (fs.put p (.file bytes)).place path = .ok p := placeBut_put hentry hplace
  rw [find, hplace']
  dsimp only
  rw [entryAt_put, if_pos ⟨rfl, hfree⟩]
  dsimp only
  rw [if_pos hname]

theorem read_write (h : fs.write path bytes = .ok fs') : fs'.read path = .ok bytes := by
  rw [read, find_write h]

/-! ## Files that are there -/

variable {file : String} {old : List UInt8}

/-- A file can be read if its name ends as a name and leads to it. -/
theorem read_eq_ok_iff : fs.read path = .ok bytes ↔
    ∃ p, fs.place path = .ok p ∧ fs.entry? p = some (.file bytes) ∧ endOf path = .name := by
  unfold read find
  cases fs.place path with
  | error c => simp
  | ok p =>
    dsimp only
    cases hentry : fs.entry? p with
    | none => simp [hentry]
    | some x =>
      cases x with
      | directory => simp [hentry]
      | file bs =>
        by_cases hname : endOf path = .name
        · simp [hentry, hname]
        · simp [hname]

/-- **A file that can be read can be written**, as there are no permissions in the tree. -/
theorem exists_write (h : fs.read path = .ok old) (bytes : List UInt8) :
    ∃ fs', fs.write path bytes = .ok fs' := by
  obtain ⟨p, hplace, hentry, hname⟩ := read_eq_ok_iff.1 h
  have htarget : fs.target path = .ok p := by
    rw [target, hname]
    dsimp only
    rw [hplace]
    show (if fs.entry? p = some .directory then _ else _) = _
    rw [hentry, if_neg nofun]
  refine ⟨fs.put p (.file bytes), ?_⟩
  rw [write, htarget]

theorem place_write (h : fs.write path bytes = .ok fs') (hplace : fs.place file = .ok p) :
    fs'.place file = .ok p := by
  obtain ⟨q, -, hentry, -, rfl⟩ := write_eq_ok h
  exact placeBut_put hentry hplace

/-- **Other files stay** when one is written. -/
theorem read_write_of_ne (h : fs.write path bytes = .ok fs') (hne : fs.place path ≠ fs.place file)
    (hold : fs.read file = .ok old) : fs'.read file = .ok old := by
  obtain ⟨q, hplace, hentry, -, rfl⟩ := write_eq_ok h
  obtain ⟨p, hplace', hentry', hname⟩ := read_eq_ok_iff.1 hold
  have hpq : p ≠ q := by
    rintro rfl
    exact hne (hplace.trans hplace'.symm)
  refine read_eq_ok_iff.2 ⟨p, placeBut_put hentry hplace', ?_, hname⟩
  rw [entryAt_put, if_neg fun h : p = q ∧ _ => hpq h.1]
  exact hentry'

theorem exists_write_of_append (h : fs.append path bytes = .ok fs') :
    ∃ more, fs.write path more = .ok fs' := by
  unfold append at h
  split at h
  · exact ⟨_, h⟩
  · exact ⟨_, h⟩

/-- **What is put at the end of a file** is added to it, and to no other file. -/
theorem read_append (h : fs.append path bytes = .ok fs') (hold : fs.read file = .ok old) :
    ∃ added, fs'.read file = .ok (old ++ added) ∧
      (fs.place path ≠ fs.place file → added = []) := by
  by_cases hsame : fs.place path = fs.place file
  · -- The two names lead to one file, so that what is there is what was read.
    obtain ⟨p, hplace, hentry, hname⟩ := read_eq_ok_iff.1 hold
    obtain ⟨more, hmore⟩ := exists_write_of_append h
    obtain ⟨q, hplace', -, hname', -⟩ := write_eq_ok hmore
    obtain rfl : p = q := Except.ok.inj (hplace.symm.trans (hsame ▸ hplace'))
    have hfind : fs.find path = .ok (.file old) := by
      rw [find, hplace']
      dsimp only
      rw [hentry]
      dsimp only
      rw [if_pos hname']
    rw [append, hfind] at h
    refine ⟨bytes, ?_, fun hne => absurd hsame hne⟩
    obtain ⟨q, hplace'', hentry', hname'', rfl⟩ := write_eq_ok h
    obtain rfl : p = q := Except.ok.inj (hplace'.symm.trans hplace'')
    have hfree : ¬ IsFixed p := fun hfixed => hentry' (entryAt_of_isFixed hfixed)
    refine read_eq_ok_iff.2 ⟨p, placeBut_put hentry' hplace, ?_, hname⟩
    rw [entryAt_put, if_pos ⟨rfl, hfree⟩]
  · refine ⟨[], ?_, fun _ => rfl⟩
    rw [List.append_nil]
    obtain ⟨more, hmore⟩ := exists_write_of_append h
    exact read_write_of_ne hmore hsame hold

end Respell.Files
