/-
  Text and its bytes.

  1. **Numbers of bytes.**  What a first byte asks for and which bytes may follow are conditions on
     the numbers of the bytes (`following?_eq`, `fitsSecond_iff`, `fitsLater_iff`), and in this form
     they are linear arithmetic.

  2. **One character.**  Its bytes are a piece whatever stands behind them (`piece_encode`), and every
     piece that is a character has its bytes and no others (`eq_encodeChar_of_piece`).  This is where
     overlong forms and surrogates would do harm.

  3. **A text** comes back from its bytes, decoded in either way (`decode_encode`,
     `decodeLossy_encode`).

  4. **Any bytes** fall apart where their text does (`exists_cut`).  A part that is no character is
     one replacement character, and where it is cut off from the bytes behind it, it still is
     (`piece_of_bad`); that its fault may be another one then does not matter.
-/
import Mathlib.Data.UInt
import Respell.Text.Utf8

namespace Respell.Utf8

/-! ## Numbers of bytes -/

theorem toNat_toUInt8 {n : Nat} (h : n < 256) : n.toUInt8.toNat = n := by
  rw [Nat.toUInt8, UInt8.toNat_ofNat', Nat.mod_eq_of_lt h]

theorem toNat_trailByte (n : Nat) : (trailByte n).toNat = 0x80 + n % 64 := toNat_toUInt8 (by omega)

theorem following?_eq (b : UInt8) :
    following? b =
      if b.toNat < 0x80 then some 0
      else if b.toNat < 0xC2 then none
      else if b.toNat < 0xE0 then some 1
      else if b.toNat < 0xF0 then some 2
      else if b.toNat < 0xF5 then some 3
      else none := by
  simp only [following?, UInt8.lt_iff_toNat_lt]
  rfl

theorem leadBits_eq (b : UInt8) :
    leadBits b =
      if b.toNat < 0x80 then b.toNat
      else if b.toNat < 0xE0 then b.toNat % 32
      else if b.toNat < 0xF0 then b.toNat % 16
      else b.toNat % 8 := by
  simp only [leadBits, UInt8.lt_iff_toNat_lt]
  rfl

theorem fitsLater_iff (c : UInt8) : fitsLater c = true ↔ 0x80 ≤ c.toNat ∧ c.toNat ≤ 0xBF := by
  simp only [fitsLater, UInt8.le_iff_toNat_le, Bool.and_eq_true, decide_eq_true_eq]
  rfl

theorem fitsSecond_iff (b c : UInt8) :
    fitsSecond b c = true ↔
      (if b.toNat = 0xE0 then 0xA0 else if b.toNat = 0xF0 then 0x90 else 0x80) ≤ c.toNat ∧
        c.toNat ≤ (if b.toNat = 0xED then 0x9F else if b.toNat = 0xF4 then 0x8F else 0xBF) := by
  simp only [fitsSecond, UInt8.le_iff_toNat_le, ← UInt8.toNat_inj, apply_ite UInt8.toNat,
    Bool.and_eq_true, decide_eq_true_eq]
  rfl

theorem toNat_ofNat {n : Nat} (h : n < 0xD800 ∨ (0xDFFF < n ∧ n < 0x110000)) :
    (Char.ofNat n).toNat = n := by
  have hvalid : n.isValidChar := h
  rw [Char.ofNat, dif_pos hvalid]
  rfl

/-! ## One character -/

theorem follow_cons {fits : UInt8 → Bool} {c : UInt8} (h : fits c = true) (taken bits n : Nat)
    (cs : List UInt8) :
    follow fits taken bits (n + 1) (c :: cs) =
      follow fitsLater (taken + 1) (bits * 64 + c.toNat % 64) n cs :=
  if_pos h

theorem fitsLater_trailByte (n : Nat) : fitsLater (trailByte n) = true := by
  rw [fitsLater_iff, toNat_trailByte]
  omega

/-- **The bytes of a character** are a piece, whatever stands behind them. -/
theorem piece_encode (c : Char) (bs : List UInt8) :
    ∃ b cs, encodeChar c = b :: cs ∧ piece b (cs ++ bs) = .char c (cs.length + 1) := by
  have hvalid : c.toNat < 0xD800 ∨ (0xDFFF < c.toNat ∧ c.toNat < 0x110000) := c.valid
  have hc : Char.ofNat c.toNat = c := Char.ofNat_toNat c
  unfold encodeChar
  generalize c.toNat = n at hvalid hc
  dsimp only
  split
  · -- one byte
    have hb : n.toUInt8.toNat = n := toNat_toUInt8 (by omega)
    refine ⟨_, _, rfl, ?_⟩
    rw [piece, following?_eq, leadBits_eq, hb, if_pos ‹_›, if_pos ‹_›]
    dsimp only
    rw [follow, hc]
    rfl
  · split
    · -- two bytes
      have hb : (0xC0 + n / 64).toUInt8.toNat = 0xC0 + n / 64 := toNat_toUInt8 (by omega)
      have hsecond : fitsSecond (0xC0 + n / 64).toUInt8 (trailByte n) = true := by
        rw [fitsSecond_iff, hb, toNat_trailByte]
        split_ifs <;> omega
      have hbits : (0xC0 + n / 64) % 32 * 64 + (0x80 + n % 64) % 64 = n := by omega
      refine ⟨_, _, rfl, ?_⟩
      rw [piece, following?_eq, leadBits_eq, hb, if_neg (by omega), if_neg (by omega),
        if_pos (by omega), if_neg (by omega), if_pos (by omega)]
      dsimp only
      rw [List.cons_append, follow_cons hsecond, follow, toNat_trailByte, hbits, hc]
      rfl
    · split
      · -- three bytes
        have hb : (0xE0 + n / 4096).toUInt8.toNat = 0xE0 + n / 4096 := toNat_toUInt8 (by omega)
        have hsecond : fitsSecond (0xE0 + n / 4096).toUInt8 (trailByte (n / 64)) = true := by
          rw [fitsSecond_iff, hb, toNat_trailByte]
          split_ifs <;> omega
        have hbits : ((0xE0 + n / 4096) % 16 * 64 + (0x80 + n / 64 % 64) % 64) * 64 +
            (0x80 + n % 64) % 64 = n := by omega
        refine ⟨_, _, rfl, ?_⟩
        rw [piece, following?_eq, leadBits_eq, hb, if_neg (by omega), if_neg (by omega),
          if_neg (by omega), if_pos (by omega), if_neg (by omega), if_neg (by omega),
          if_pos (by omega)]
        dsimp only
        rw [List.cons_append, follow_cons hsecond, List.cons_append,
          follow_cons (fitsLater_trailByte n), follow, toNat_trailByte, toNat_trailByte, hbits, hc]
        rfl
      · -- four bytes
        have hb : (0xF0 + n / 262144).toUInt8.toNat = 0xF0 + n / 262144 := toNat_toUInt8 (by omega)
        have hsecond : fitsSecond (0xF0 + n / 262144).toUInt8 (trailByte (n / 4096)) = true := by
          rw [fitsSecond_iff, hb, toNat_trailByte]
          split_ifs <;> omega
        have hbits : (((0xF0 + n / 262144) % 8 * 64 + (0x80 + n / 4096 % 64) % 64) * 64 +
            (0x80 + n / 64 % 64) % 64) * 64 + (0x80 + n % 64) % 64 = n := by omega
        refine ⟨_, _, rfl, ?_⟩
        rw [piece, following?_eq, leadBits_eq, hb, if_neg (by omega), if_neg (by omega),
          if_neg (by omega), if_neg (by omega), if_pos (by omega), if_neg (by omega),
          if_neg (by omega), if_neg (by omega)]
        dsimp only
        rw [List.cons_append, follow_cons hsecond, List.cons_append,
          follow_cons (fitsLater_trailByte (n / 64)), List.cons_append,
          follow_cons (fitsLater_trailByte n), follow, toNat_trailByte, toNat_trailByte,
          toNat_trailByte, hbits, hc]
        rfl

/-- Where one more byte is to follow, it is there and fits if the piece is a character. -/
theorem follow_eq_char {fits : UInt8 → Bool} {taken bits n m : Nat} {cs : List UInt8} {c : Char}
    (h : follow fits taken bits (n + 1) cs = .char c m) :
    ∃ b rest, cs = b :: rest ∧ fits b = true ∧
      follow fitsLater (taken + 1) (bits * 64 + b.toNat % 64) n rest = .char c m := by
  cases cs with
  | nil => cases h
  | cons b rest =>
    rw [follow] at h
    split at h
    · exact ⟨b, rest, rfl, ‹_›, h⟩
    · cases h

theorem toUInt8_eq {n : Nat} {b : UInt8} (h : n = b.toNat) : n.toUInt8 = b := by
  rw [← UInt8.toNat_inj, toNat_toUInt8 (h ▸ b.toNat_lt), h]

theorem trailByte_eq {n : Nat} {b : UInt8} (h : 0x80 + n % 64 = b.toNat) : trailByte n = b :=
  toUInt8_eq h

theorem encodeChar_ofNat {n : Nat} (h : n < 0xD800 ∨ (0xDFFF < n ∧ n < 0x110000)) :
    encodeChar (Char.ofNat n) =
      if n < 0x80 then [n.toUInt8]
      else if n < 0x800 then [(0xC0 + n / 64).toUInt8, trailByte n]
      else if n < 0x10000 then [(0xE0 + n / 4096).toUInt8, trailByte (n / 64), trailByte n]
      else [(0xF0 + n / 262144).toUInt8, trailByte (n / 4096), trailByte (n / 64), trailByte n] := by
  rw [encodeChar, toNat_ofNat h]

/-- A second byte is one of those that may be third, whatever the first is. -/
theorem fitsLater_of_fitsSecond {b c : UInt8} (h : fitsSecond b c = true) : fitsLater c = true := by
  rw [fitsSecond_iff] at h
  rw [fitsLater_iff]
  split_ifs at h <;> omega

/-- **A piece that is a character** has the bytes of the character. -/
theorem eq_encodeChar_of_piece {b : UInt8} {bs : List UInt8} {c : Char} {m : Nat}
    (h : piece b bs = .char c m) : ∃ rest, b :: bs = encodeChar c ++ rest ∧ m = (encodeChar c).length := by
  have hlt : b.toNat < 256 := b.toNat_lt
  unfold piece at h
  rw [following?_eq, leadBits_eq] at h
  split_ifs at h with h1 h2 h3 h4 h5
  · obtain ⟨rfl, rfl⟩ := Piece.char.inj h
    have hlead : b.toNat.toUInt8 = b := toUInt8_eq rfl
    rw [encodeChar_ofNat (by omega), if_pos h1, hlead]
    exact ⟨bs, rfl, rfl⟩
  · obtain ⟨b₁, rest, rfl, hf, h⟩ := follow_eq_char h
    obtain ⟨rfl, rfl⟩ := Piece.char.inj h
    have h₁ := (fitsLater_iff b₁).1 (fitsLater_of_fitsSecond hf)
    generalize hn : b.toNat % 32 * 64 + b₁.toNat % 64 = n
    have hlead : (0xC0 + n / 64).toUInt8 = b := toUInt8_eq (by omega)
    have hlast : trailByte n = b₁ := trailByte_eq (by omega)
    rw [encodeChar_ofNat (by omega), if_neg (by omega), if_pos (by omega), hlead, hlast]
    exact ⟨rest, rfl, rfl⟩
  · obtain ⟨b₁, rest₁, rfl, hf, h⟩ := follow_eq_char h
    obtain ⟨b₂, rest, rfl, h₂, h⟩ := follow_eq_char h
    obtain ⟨rfl, rfl⟩ := Piece.char.inj h
    have h₁ := (fitsLater_iff b₁).1 (fitsLater_of_fitsSecond hf)
    rw [fitsLater_iff] at h₂
    generalize hn : (b.toNat % 16 * 64 + b₁.toNat % 64) * 64 + b₂.toNat % 64 = n
    -- What may be second after this first byte leaves no overlong form and no surrogate.
    have hrange : 0x800 ≤ n ∧ n < 0x10000 ∧ (n < 0xD800 ∨ 0xDFFF < n) := by
      rw [fitsSecond_iff] at hf
      split_ifs at hf <;> omega
    have hlead : (0xE0 + n / 4096).toUInt8 = b := toUInt8_eq (by omega)
    have hsecond : trailByte (n / 64) = b₁ := trailByte_eq (by omega)
    have hlast : trailByte n = b₂ := trailByte_eq (by omega)
    rw [encodeChar_ofNat (by omega), if_neg (by omega), if_neg (by omega), if_pos (by omega), hlead,
      hsecond, hlast]
    exact ⟨rest, rfl, rfl⟩
  · obtain ⟨b₁, rest₁, rfl, hf, h⟩ := follow_eq_char h
    obtain ⟨b₂, rest₂, rfl, h₂, h⟩ := follow_eq_char h
    obtain ⟨b₃, rest, rfl, h₃, h⟩ := follow_eq_char h
    obtain ⟨rfl, rfl⟩ := Piece.char.inj h
    have h₁ := (fitsLater_iff b₁).1 (fitsLater_of_fitsSecond hf)
    rw [fitsLater_iff] at h₂ h₃
    generalize hn :
      ((b.toNat % 8 * 64 + b₁.toNat % 64) * 64 + b₂.toNat % 64) * 64 + b₃.toNat % 64 = n
    -- Here it leaves no overlong form, and nothing beyond the last character.
    have hrange : 0x10000 ≤ n ∧ n < 0x110000 := by
      rw [fitsSecond_iff] at hf
      split_ifs at hf <;> omega
    have hlead : (0xF0 + n / 262144).toUInt8 = b := toUInt8_eq (by omega)
    have hsecond : trailByte (n / 4096) = b₁ := trailByte_eq (by omega)
    have hthird : trailByte (n / 64) = b₂ := trailByte_eq (by omega)
    have hlast : trailByte n = b₃ := trailByte_eq (by omega)
    rw [encodeChar_ofNat (by omega), if_neg (by omega), if_neg (by omega), if_neg (by omega), hlead,
      hsecond, hthird, hlast]
    exact ⟨rest, rfl, rfl⟩

/-! ## A text -/

theorem pieces_encodeChar_append (c : Char) (bs : List UInt8) :
    pieces (encodeChar c ++ bs) = .char c (encodeChar c).length :: pieces bs := by
  obtain ⟨b, cs, hbytes, hpiece⟩ := piece_encode c bs
  rw [hbytes, List.cons_append, pieces, hpiece]
  simp [Piece.length]

theorem decodeLossy_nil : decodeLossy [] = [] := by
  rw [decodeLossy, pieces]
  rfl

theorem decodeLossy_encode_append (t : Text) (bs : List UInt8) :
    decodeLossy (encode t ++ bs) = t ++ decodeLossy bs := by
  induction t with
  | nil => rfl
  | cons c t ih =>
    rw [decodeLossy] at ih ⊢
    rw [encode, List.flatMap_cons, List.append_assoc, pieces_encodeChar_append]
    exact congrArg (c :: ·) ih

/-- **A text** is what its bytes decode to. -/
theorem decodeLossy_encode (t : Text) : decodeLossy (encode t) = t := by
  have h := decodeLossy_encode_append t []
  rwa [List.append_nil, decodeLossy_nil, List.append_nil] at h

theorem decode_encode (t : Text) : decode (encode t) = .ok t := by
  have htext : ∀ pos, textOf pos (encode t) (pieces (encode t)) = .ok t := by
    induction t with
    | nil =>
      intro pos
      rw [encode, List.flatMap_nil, pieces]
      rfl
    | cons c t ih =>
      intro pos
      rw [encode, List.flatMap_cons, pieces_encodeChar_append, textOf, List.drop_left]
      rw [encode] at ih
      rw [ih]
      rfl
  exact htext 0

/-! ## Any bytes -/

theorem decodeLossy_cons (b : UInt8) (bs : List UInt8) :
    decodeLossy (b :: bs) =
      lossyChar (piece b bs) :: decodeLossy (bs.drop ((piece b bs).length - 1)) := by
  rw [decodeLossy, pieces]
  rfl

/-- A part that is no character is none with less behind it. -/
theorem follow_of_bad {fits : UInt8 → Bool} {taken bits n m : Nat} {f : Fault} {cs : List UInt8}
    (h : follow fits taken bits n cs = .bad f m) :
    taken ≤ m ∧ m - taken ≤ cs.length ∧ ∀ rest, rest <+: cs.drop (m - taken) →
      ∃ f', follow fits taken bits n (cs.take (m - taken) ++ rest) = .bad f' m := by
  induction n generalizing fits taken bits cs with
  | zero => cases h
  | succ n ih =>
    cases cs with
    | nil =>
      obtain ⟨-, rfl⟩ := Piece.bad.inj h
      refine ⟨Nat.le_refl taken, by omega, fun rest hrest => ?_⟩
      rw [List.drop_nil, List.prefix_nil] at hrest
      subst hrest
      rw [Nat.sub_self]
      exact ⟨_, rfl⟩
    | cons c cs =>
      rw [follow] at h
      split at h
      · rename_i hc
        obtain ⟨hle, hlen, hrest⟩ := ih h
        have hm : m - taken = m - (taken + 1) + 1 := by omega
        refine ⟨by omega, by rw [List.length_cons]; omega, fun rest => ?_⟩
        rw [hm, List.drop_succ_cons, List.take_succ_cons, List.cons_append, follow_cons hc]
        exact hrest rest
      · -- The fault is here.  It stays one whether the byte that does not fit is there or cut off.
        rename_i hc
        obtain ⟨-, rfl⟩ := Piece.bad.inj h
        refine ⟨Nat.le_refl taken, by omega, fun rest hrest => ?_⟩
        rw [Nat.sub_self] at hrest ⊢
        cases rest with
        | nil => exact ⟨_, rfl⟩
        | cons d rest =>
          obtain ⟨tail, htail⟩ := hrest
          obtain ⟨rfl, -⟩ := List.cons.inj htail
          exact ⟨_, if_neg hc⟩

theorem piece_of_bad {b : UInt8} {bs : List UInt8} {f : Fault} {m : Nat} (h : piece b bs = .bad f m) :
    1 ≤ m ∧ m - 1 ≤ bs.length ∧
      ∀ rest, rest <+: bs.drop (m - 1) → ∃ f', piece b (bs.take (m - 1) ++ rest) = .bad f' m := by
  unfold piece at h ⊢
  cases hfollow : following? b with
  | none =>
    rw [hfollow] at h
    obtain ⟨-, rfl⟩ := Piece.bad.inj h
    exact ⟨Nat.le_refl 1, Nat.zero_le _, fun rest _ => ⟨_, rfl⟩⟩
  | some n =>
    rw [hfollow] at h
    exact follow_of_bad h

/-- **Bytes fall apart** behind the first character of their text, wherever what is left is cut.  The
    first part is the character's bytes, or the character is the one that stands for others. -/
theorem exists_head (b : UInt8) (bs : List UInt8) :
    ∃ c head rest, b :: bs = head ++ rest ∧ head ≠ [] ∧
      (∀ bs', bs' <+: rest → decodeLossy (head ++ bs') = c :: decodeLossy bs') ∧
        (head = encodeChar c ∨ c = '\ufffd') := by
  cases hpiece : piece b bs with
  | char c m =>
    obtain ⟨rest, hbytes, -⟩ := eq_encodeChar_of_piece hpiece
    refine ⟨c, encodeChar c, rest, hbytes, ?_, fun bs' _ => ?_, .inl rfl⟩
    · obtain ⟨b', cs, hc, -⟩ := piece_encode c []
      rw [hc]
      exact List.cons_ne_nil b' cs
    · rw [decodeLossy, pieces_encodeChar_append]
      rfl
  | bad f m =>
    obtain ⟨hm, hlen, hcut⟩ := piece_of_bad hpiece
    refine ⟨'\ufffd', b :: bs.take (m - 1), bs.drop (m - 1), ?_, List.cons_ne_nil _ _,
      fun bs' hbs' => ?_, .inr rfl⟩
    · rw [List.cons_append, List.take_append_drop]
    · obtain ⟨f', hf'⟩ := hcut bs' hbs'
      have hbehind : (bs.take (m - 1) ++ bs').drop (m - 1) = bs' :=
        List.drop_left' (List.length_take_of_le hlen)
      rw [List.cons_append, decodeLossy_cons, hf']
      show _ :: decodeLossy ((bs.take (m - 1) ++ bs').drop (m - 1)) = _
      rw [hbehind]
      rfl

/-- **Bytes fall apart where their text does.** -/
theorem exists_cut {bs : List UInt8} {t u : Text} (h : decodeLossy bs = t ++ u) :
    ∃ bs₁ bs₂, bs = bs₁ ++ bs₂ ∧ decodeLossy bs₁ = t ∧ decodeLossy bs₂ = u := by
  induction t generalizing bs with
  | nil => exact ⟨[], bs, rfl, decodeLossy_nil, h⟩
  | cons c t ih =>
    cases bs with
    | nil =>
      rw [decodeLossy_nil] at h
      cases h
    | cons b bs =>
      obtain ⟨c', head, rest, hbytes, -, hhead, -⟩ := exists_head b bs
      rw [hbytes, hhead rest (List.prefix_refl rest)] at h
      obtain ⟨rfl, hrest⟩ := List.cons.inj h
      obtain ⟨bs₁, bs₂, rfl, h₁, h₂⟩ := ih hrest
      refine ⟨head ++ bs₁, bs₂, ?_, ?_, h₂⟩
      · rw [hbytes, List.append_assoc]
      · rw [hhead bs₁ (List.prefix_append bs₁ bs₂), h₁]

/-- Bytes whose text needs no replacement character are the bytes of their text. -/
theorem encode_decodeLossy {bs : List UInt8} (h : '\ufffd' ∉ decodeLossy bs) :
    encode (decodeLossy bs) = bs := by
  induction hlen : bs.length using Nat.strong_induction_on generalizing bs with
  | _ n ih =>
    cases bs with
    | nil =>
      rw [decodeLossy_nil]
      rfl
    | cons b bs =>
      obtain ⟨c, head, rest, hbytes, hne, hhead, hc⟩ := exists_head b bs
      have htext := hhead rest (List.prefix_refl rest)
      rw [hbytes] at h hlen ⊢
      rw [htext] at h ⊢
      have hlt : rest.length < n := by
        have hpos := List.length_pos_iff.2 hne
        rw [List.length_append] at hlen
        omega
      have hrest := ih _ hlt (fun hmem => h (List.mem_cons_of_mem c hmem)) rfl
      rcases hc with rfl | rfl
      · show encodeChar c ++ encode (decodeLossy rest) = _
        rw [hrest]
      · exact absurd List.mem_cons_self h

end Respell.Utf8
