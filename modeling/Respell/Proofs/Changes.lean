/-
  Some spellings of a text written anew, and the others left alone.

  1. **Changes** (`Piece.changes`).  Each piece of a text gets another spelling or none, and there is an
     edit for each that gets one.

  2. **They are never refused** (`Piece.applyAll_changes`), whatever the pieces are, and they give the
     text of the pieces with the chosen spellings.  What is left alone between two edits is copied with
     the gaps around it, so the induction carries a text that has been passed over but not copied yet.
-/
import Respell.Proofs.EditSets
import Respell.Proofs.Layout

namespace Respell.Piece

variable {last : Text} {ps : List Piece}

/-- The edits that put other spellings into some of the pieces that stand behind an offset. -/
def changes (pos : Nat) : List Piece → List (Option Text) → List Edit
  | p :: ps, r? :: rs =>
    (r?.map fun r =>
      ⟨(pos + p.gap.length : Nat), (pos + p.gap.length + p.spelling.length : Nat), r⟩).toList ++
      changes (pos + p.gap.length + p.spelling.length) ps rs
  | _, _ => []

/-- The spellings of pieces of which some get another one. -/
def chosen : List Piece → List (Option Text) → List Text :=
  List.zipWith fun p r? => r?.getD p.spelling

example : changes 0 [⟨['a', ' '], ['1']⟩, ⟨[' '], ['2']⟩] [none, some ['0', 'b', '1', '0']] =
    [⟨4, 5, ['0', 'b', '1', '0']⟩] := by decide

theorem length_chosen {rs : List (Option Text)} (h : rs.length = ps.length) :
    (chosen ps rs).length = ps.length := by
  rw [chosen, List.length_zipWith, h, Nat.min_self]

/-- Changes lie in order behind each place in front of the pieces. -/
theorem checkFrom_changes {n : Nat} (last : Text) : ∀ {ps : List Piece} (done pos : Nat)
    (rs : List (Option Text)), done ≤ pos → pos + (fill last ps).length ≤ n →
    Edit.checkFrom n done (changes pos ps rs) = .ok ()
  | [], _, _, _, _, _ => by rw [changes, Edit.checkFrom]; simp
  | p :: ps, _, _, [], _, _ => rfl
  | p :: ps, done, pos, r? :: rs, hdone, h => by
    rw [fill, List.length_append, List.length_append] at h
    rw [changes]
    cases r? with
    | none => exact checkFrom_changes last done _ rs (by omega) (by omega)
    | some r =>
      rw [Option.map_some, Option.toList_some, List.singleton_append, Edit.checkFrom]
      dsimp only
      rw [if_neg (by omega), if_neg (by omega)]
      exact checkFrom_changes last _ _ rs (Nat.le_refl _) (by omega)

/-- Changes give the text with the chosen spellings; `passed` is what has been passed over. -/
theorem splice_changes (last : Text) : ∀ {ps : List Piece} {rs : List (Option Text)} (done : Nat)
    (passed : Text), rs.length = ps.length →
    Edit.splice done (passed ++ fill last ps) (changes (done + passed.length) ps rs) =
      passed ++ fill last (refill ps (chosen ps rs))
  | [], [], _, _, _ => rfl
  | p :: ps, r? :: rs, done, passed, h => by
    have hlen : rs.length = ps.length := Nat.succ.inj h
    cases r? with
    | none =>
      have hsplit : passed ++ fill last (p :: ps) =
          (passed ++ p.gap ++ p.spelling) ++ fill last ps := by
        rw [fill, List.append_assoc, List.append_assoc]
      have hpos : done + passed.length + p.gap.length + p.spelling.length =
          done + (passed ++ p.gap ++ p.spelling).length := by
        rw [List.length_append, List.length_append]
        omega
      have ih := splice_changes last done (passed ++ p.gap ++ p.spelling) hlen
      rw [← hpos, ← hsplit] at ih
      show Edit.splice done (passed ++ fill last (p :: ps))
        (changes (done + passed.length + p.gap.length + p.spelling.length) ps rs) =
          passed ++ (p.gap ++ (p.spelling ++ fill last (refill ps (chosen ps rs))))
      rw [ih, List.append_assoc, List.append_assoc]
    | some r =>
      -- what has been passed over and the gap are copied
      have hstart : ((done + passed.length + p.gap.length : Nat) - done : Int).toNat =
          (passed ++ p.gap).length := by
        rw [List.length_append]
        omega
      have hstop :
          ((done + passed.length + p.gap.length + p.spelling.length : Nat) - done : Int).toNat =
            (passed ++ p.gap ++ p.spelling).length := by
        rw [List.length_append, List.length_append]
        omega
      have ih := splice_changes last (done + passed.length + p.gap.length + p.spelling.length) [] hlen
      rw [List.nil_append, List.nil_append, List.length_nil, Nat.add_zero] at ih
      have hfront : passed ++ fill last (p :: ps) =
          (passed ++ p.gap) ++ (p.spelling ++ fill last ps) := by
        rw [fill, List.append_assoc]
      rw [changes, Option.map_some, Option.toList_some, List.singleton_append, Edit.splice, hstart,
        hstop, hfront, List.take_left, ← List.append_assoc (passed ++ p.gap), List.drop_left, ih]
      show passed ++ p.gap ++ r ++ fill last (refill ps (chosen ps rs)) =
        passed ++ (p.gap ++ (r ++ fill last (refill ps (chosen ps rs))))
      rw [List.append_assoc, List.append_assoc]

theorem check_changes (last : Text) (ps : List Piece) (rs : List (Option Text)) :
    Edit.check (fill last ps) (changes 0 ps rs) = .ok (changes 0 ps rs) :=
  Edit.check_of_checkFrom (checkFrom_changes last 0 0 rs (Nat.le_refl 0) (by omega))

/-- **Changes are never refused**, and nothing but the spellings changes. -/
theorem applyAll_changes (last : Text) {ps : List Piece} {rs : List (Option Text)}
    (h : rs.length = ps.length) :
    Edit.applyAll (fill last ps) (changes 0 ps rs) = .ok (fill last (refill ps (chosen ps rs))) := by
  rw [Edit.applyAll, check_changes]
  exact congrArg Except.ok (splice_changes last 0 [] h)

end Respell.Piece
