/-
  The bytes of a text between its spellings.

  A text is laid out as gaps and spellings.  Its bytes fall apart in the same way, even where they are no
  text: the bytes of a gap are those that are read as the gap, and a spelling has one byte for each of its
  characters (`exists_woven`).  When the spellings are written anew, the bytes of the gaps come out as they
  were read and written again (`Utf8.mended`), which changes what is no text and nothing else.
-/
import Respell.Proofs.Layout
import Respell.Proofs.Utf8Bytes

namespace Respell

namespace Utf8

/-- Bytes as they are when they have been read and written again: each part that is no text is the
    replacement character. -/
def mended (bs : List UInt8) : List UInt8 := encode (decodeLossy bs)

example : mended [0x41, 0xFF, 0x42] = [0x41, 0xEF, 0xBF, 0xBD, 0x42] := by decide +kernel

/-- The bytes of a text stay. -/
theorem mended_encode (t : Text) : mended (encode t) = encode t := by
  rw [mended, decodeLossy_encode]

/-- Bytes with texts between them. -/
def woven : List (List UInt8) → List Text → List UInt8
  | g :: gs, s :: ss => g ++ (encode s ++ woven gs ss)
  | gs, _ => gs.flatten

example : woven [[0xFF], [0x20], []] [['1'], ['2']] = [0xFF, 0x31, 0x20, 0x32] := by decide +kernel

theorem encode_append (t u : Text) : encode (t ++ u) = encode t ++ encode u := List.flatMap_append

/-- A byte that stands in what is between texts stands in the whole. -/
theorem mem_woven {b : UInt8} : ∀ {gs : List (List UInt8)} {ss : List Text},
    gs.length = ss.length + 1 → (b ∈ woven gs ss ↔ (∃ g ∈ gs, b ∈ g) ∨ ∃ s ∈ ss, b ∈ encode s)
  | g :: gs, [], h => by
    obtain rfl : gs = [] := List.length_eq_zero_iff.1 (Nat.succ.inj h)
    simp [woven]
  | g :: gs, s :: ss, h => by
    rw [woven, List.mem_append, List.mem_append, mem_woven (Nat.succ.inj h)]
    simp only [List.mem_cons, exists_eq_or_imp]
    exact (or_congr_right or_left_comm).trans or_assoc.symm

end Utf8

namespace Piece

open Utf8 (encode decodeLossy mended woven)

variable {last : Text} {ps : List Piece}

/-- The bytes of a text are those of its gaps with its spellings between them. -/
theorem encode_fill (last : Text) (ps : List Piece) :
    encode (fill last ps) = woven ((ps.map gap ++ [last]).map encode) (ps.map spelling) := by
  induction ps with
  | nil => exact (List.append_nil _).symm
  | cons p ps ih =>
    rw [fill, Utf8.encode_append, Utf8.encode_append, ih]
    rfl

/-- **What comes out** when spellings are written anew. -/
theorem encode_fill_refill {gs : List (List UInt8)} {rs : List Text}
    (hgs : gs.map decodeLossy = ps.map gap ++ [last]) (hlen : rs.length = ps.length) :
    encode (fill last (refill ps rs)) = woven (gs.map mended) rs := by
  have hmended : (gs.map decodeLossy).map encode = gs.map mended := by
    rw [List.map_map]
    rfl
  rw [encode_fill, map_gap_refill hlen, map_spelling_refill hlen, ← hgs, hmended]

/-- Bytes fall apart where the pieces of their text do. -/
theorem exists_gaps {bs : List UInt8} (h : decodeLossy bs = fill last ps)
    (hplain : ∀ s ∈ ps.map spelling, '\ufffd' ∉ s) :
    ∃ gs, gs.map decodeLossy = ps.map gap ++ [last] ∧ bs = woven gs (ps.map spelling) := by
  induction ps generalizing bs with
  | nil => exact ⟨[bs], congrArg (fun t => [t]) h, (List.append_nil bs).symm⟩
  | cons p ps ih =>
    obtain ⟨hp, hps⟩ := List.forall_mem_cons.1 hplain
    obtain ⟨g, behind, rfl, hg, hbehind⟩ := Utf8.exists_cut h
    obtain ⟨s, rest, rfl, hs, hrest⟩ := Utf8.exists_cut hbehind
    obtain ⟨gs, hgs, rfl⟩ := ih hrest hps
    -- the bytes of a spelling are no others, since it has no replacement character
    have hspelling : encode p.spelling = s := by
      rw [← hs]
      exact Utf8.encode_decodeLossy (hs.symm ▸ hp)
    refine ⟨g :: gs, ?_, ?_⟩
    · rw [List.map_cons, hg, hgs]
      rfl
    · rw [List.map_cons, woven, hspelling]

/-- **The bytes of a text between its spellings.**  If the bytes are those of a text, so are all of them
    that stand in a gap. -/
theorem exists_woven {bs : List UInt8} (h : decodeLossy bs = fill last ps)
    (hplain : ∀ s ∈ ps.map spelling, '\ufffd' ∉ s) :
    ∃ gs, gs.map decodeLossy = ps.map gap ++ [last] ∧ bs = woven gs (ps.map spelling) ∧
      ((∃ t, bs = encode t) → gs.map mended = gs) := by
  by_cases htext : ∃ t, bs = encode t
  · obtain ⟨t, rfl⟩ := htext
    rw [Utf8.decodeLossy_encode] at h
    subst h
    refine ⟨(ps.map gap ++ [last]).map encode, ?_, encode_fill last ps, fun _ => ?_⟩
    · rw [List.map_map]
      exact (List.map_congr_left fun t _ => Utf8.decodeLossy_encode t).trans (List.map_id _)
    · rw [List.map_map]
      exact List.map_congr_left fun t _ => Utf8.mended_encode t
  · obtain ⟨gs, hgs, hbytes⟩ := exists_gaps h hplain
    exact ⟨gs, hgs, hbytes, fun h => absurd h htext⟩

end Piece

end Respell
