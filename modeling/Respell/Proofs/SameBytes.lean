/-
  A file that is read and written again.

  A newline at the end of a file is taken off and remembered, the rest is broken into lines, and on the
  way out the lines are joined and the newline is put back.  In front of all this stands a decoder that
  never fails, and loses what it cannot read.  This file says when nothing is lost.

  1. **Valid bytes.**  Characters are written as the standard library writes them (`encodeChar_eq`), so
     its validity of bytes is the one meant here.  Bytes come back from their text if, and only if, they
     are valid (`encode_decodeLossy_iff`): an invalid part becomes a character, and characters have valid
     bytes.

  2. **The law** (`Document.saved_unchanged`).  Calls in any order do not touch how a document is kept.  If
     the lines are then what they were, what is written is the text that was read.
-/
import Respell.Proofs.BothWays

namespace Respell

/-! ## Valid bytes -/

namespace Utf8

variable {bs : List UInt8} {t : Text}

/-- Characters have the bytes that the standard library gives them. -/
theorem encodeChar_eq (c : Char) : encodeChar c = String.utf8EncodeChar c := by
  have hvalid : c.toNat < 0xD800 ∨ (0xDFFF < c.toNat ∧ c.toNat < 0x110000) := c.valid
  have htrail : ∀ n, trailByte n = UInt8.ofNat (n % 64 + 128) := fun n =>
    congrArg UInt8.ofNat (Nat.add_comm 128 (n % 64))
  unfold encodeChar String.utf8EncodeChar
  rw [show c.val.toNat = c.toNat from rfl]
  generalize c.toNat = n at hvalid
  simp only [htrail, Nat.toUInt8]
  -- by the length of the character; its lead byte has no bits above those that are kept there
  by_cases h1 : n < 0x80
  · rw [if_pos h1, if_pos (show n ≤ 127 by omega)]
  rw [if_neg h1, if_neg (show ¬ n ≤ 127 by omega)]
  by_cases h2 : n < 0x800
  · have hlead : 0xC0 + n / 64 = n / 64 % 32 + 192 := by omega
    rw [if_pos h2, if_pos (show n ≤ 2047 by omega), hlead]
  rw [if_neg h2, if_neg (show ¬ n ≤ 2047 by omega)]
  by_cases h3 : n < 0x10000
  · have hlead : 0xE0 + n / 4096 = n / 4096 % 16 + 224 := by omega
    rw [if_pos h3, if_pos (show n ≤ 65535 by omega), hlead]
  · have hlead : 0xF0 + n / 262144 = n / 262144 % 8 + 240 := by omega
    rw [if_neg h3, if_neg (show ¬ n ≤ 65535 by omega), hlead]

theorem toByteArray_encode (t : Text) : (encode t).toByteArray = t.utf8Encode := by
  have hbytes : encode t = t.flatMap String.utf8EncodeChar :=
    congrArg (t.flatMap ·) (funext encodeChar_eq)
  rw [hbytes]
  rfl

/-- Bytes are valid if they are those of a text. -/
theorem isValidUTF8_iff : bs.toByteArray.IsValidUTF8 ↔ ∃ t, encode t = bs := by
  constructor
  · rintro ⟨t, ht⟩
    rw [← toByteArray_encode, List.toByteArray_inj] at ht
    exact ⟨t, ht.symm⟩
  · rintro ⟨t, rfl⟩
    exact ⟨t, toByteArray_encode t⟩

/-- **Bytes come back from their text** if, and only if, they are valid. -/
theorem encode_decodeLossy_iff : encode (decodeLossy bs) = bs ↔ bs.toByteArray.IsValidUTF8 := by
  rw [isValidUTF8_iff]
  constructor
  · intro h
    exact ⟨_, h⟩
  · rintro ⟨t, rfl⟩
    rw [decodeLossy_encode]

end Utf8

/-! ## Reading and writing -/

namespace Document

variable {d d' : Document}

/-- Two documents with the same lines that are kept in one way are written alike. -/
theorem SameFiling.written (h : d.SameFiling d') (hlines : d'.lines = d.lines) :
    d'.written = d.written := by
  rw [Document.written, Document.written, asWritten, asWritten, text, text, hlines, h.2]

/-- A file that was saved has what the document writes, under the name that the document then has. -/
theorem read_save {fs fs' : Files} {name : Option String} (h : d.save fs name = .ok (some (d', fs'))) :
    ∃ n, d.saveName name = some n ∧ d'.filename = some n ∧ fs'.read n = .ok d.content := by
  unfold save at h
  split at h
  · cases h
  · rename_i n hn
    obtain ⟨fs'', hwrite, hpair⟩ := exists_of_map_eq_ok h
    obtain ⟨rfl, rfl⟩ := Prod.mk.inj (Option.some.inj hpair)
    exact ⟨n, hn, rfl, Files.read_write hwrite⟩

/-- **A file that is read and written again.**  Whatever has been called in between, if the lines are those
    that were read, then the file is saved under its own name, and there, or under any other name and at
    any other time, stand the bytes of the text that was read, with a replacement character for each part
    that is none.  They are the bytes of the file if, and only if, those were valid. -/
theorem saved_unchanged {fs : Files} {file : String} {bytes : List UInt8}
    (hread : fs.read file = .ok bytes) (d : Document) (cs : List Call)
    (hlines : ((d.load fs file).state.runCalls cs).lines = (d.load fs file).state.lines) :
    (d.load fs file).result = .ok () ∧
    (∃ d' fs', ((d.load fs file).state.runCalls cs).save fs none = .ok (some (d', fs')) ∧
      fs'.read file = .ok (Utf8.encode (Utf8.decodeLossy bytes))) ∧
    (∀ fs₁ name d' fs', ((d.load fs file).state.runCalls cs).save fs₁ name = .ok (some (d', fs')) →
      ∃ n, d'.filename = some n ∧ fs'.read n = .ok (Utf8.encode (Utf8.decodeLossy bytes))) ∧
    (Utf8.encode (Utf8.decodeLossy bytes) = bytes ↔ bytes.toByteArray.IsValidUTF8) := by
  obtain ⟨hresult, -, hname, hwritten⟩ := d.load_of_read hread
  have hfiling := (d.load fs file).state.sameFiling_runCalls cs
  have hcontent : ((d.load fs file).state.runCalls cs).content =
      Utf8.encode (Utf8.decodeLossy bytes) := by
    rw [content_eq_encode_written, hfiling.written hlines, hwritten]
  refine ⟨hresult, ?_, fun fs₁ name d' fs' hsave => ?_, Utf8.encode_decodeLossy_iff⟩
  · rw [← hcontent]
    exact exists_save (hfiling.1.trans hname) hread
  · obtain ⟨n, -, hn, hfile⟩ := read_save hsave
    exact ⟨n, hn, hcontent ▸ hfile⟩

/-- Marks of all kinds at the ends of lines, a byte that is no character, and two newlines at the end.
    The line that was broken and typed in is mended again. -/
theorem saved_unchanged_marks :
    let bytes : List UInt8 := [0xEF, 0xBB, 0xBF, 0x61, 0x0D, 0x0A, 0x62, 0x0D, 0xFF, 0x0A, 0x0A]
    let fs : Files := ⟨[(["f"], .file bytes)]⟩
    let d := ((ofText []).load fs "f").state
    let cs : List Call := [.split 1 1, .insert (-1) 0 ['x'], .undo, .undo]
    (d.runCalls cs).lines = [['\ufeff', 'a', '\r'], ['b', '\r', '\ufffd'], []] ∧
      (∃ d' fs', (d.runCalls cs).save fs none = .ok (some (d', fs')) ∧ fs'.read "f" =
        .ok [0xEF, 0xBB, 0xBF, 0x61, 0x0D, 0x0A, 0x62, 0x0D, 0xEF, 0xBF, 0xBD, 0x0A, 0x0A]) ∧
      ¬ bytes.toByteArray.IsValidUTF8 := by
  intro bytes fs d cs
  have hread : fs.read "f" = .ok bytes := by decide
  have hlines : (d.runCalls cs).lines = d.lines := by decide +kernel
  have hbytes : Utf8.encode (Utf8.decodeLossy bytes) =
      [0xEF, 0xBB, 0xBF, 0x61, 0x0D, 0x0A, 0x62, 0x0D, 0xEF, 0xBF, 0xBD, 0x0A, 0x0A] := by
    decide +kernel
  obtain ⟨-, hsaved, -, hvalid⟩ := saved_unchanged hread (ofText []) cs hlines
  rw [hbytes] at hsaved hvalid
  exact ⟨by decide +kernel, hsaved, fun h => absurd (hvalid.2 h) (by decide)⟩

end Document

end Respell
