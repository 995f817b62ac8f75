/-
  What is written can be read.

  1. **Digits.**  The digits of a number are below the radix, and a digit below sixteen comes back
     from its character (`digitValue?_digitChar`).  With `ofDigits_digits` this gives back every
     number from its digits as text, in every base (`valueOf_digitsText`).

  2. **Numerals.**  `IsNumeral` is the grammar that `read` goes by: a text that is not refused as no
     numeral.  There are two shapes (`isNumeral_iff`), marked and decimal, and no text has both: a
     decimal numeral never looks marked, because no marker is a decimal digit.

  3. **Writing.**  What `write` gives is a numeral and reads as the number that was written.  The
     decimal limit is one limit for both ways, so a text that could be written can be read.

  4. **Respelling** a numeral reads it and writes its worth.  It keeps the worth, so of two
     respellings only the second can be seen (`respelling_respelling`).
-/
import Respell.Numeral
import Mathlib.Data.List.Basic
import Mathlib.Data.Nat.Digits.Defs

namespace Respell

/-! ## Digits -/

theorem lt_of_mem_digitsOnto {radix n : Nat} {ds : List Nat} (hr : 1 < radix)
    (hds : ∀ d ∈ ds, d < radix) : ∀ d ∈ digitsOnto radix n ds, d < radix := by
  fun_induction digitsOnto radix n ds with
  | case1 n ds h =>
    intro d hd
    rcases List.mem_cons.1 hd with rfl | hd
    · omega
    · exact hds d hd
  | case2 n ds h ih =>
    refine ih fun d hd => ?_
    rcases List.mem_cons.1 hd with rfl | hd
    · exact Nat.mod_lt n (by omega)
    · exact hds d hd

theorem lt_of_mem_digits {radix n : Nat} (hr : 1 < radix) : ∀ d ∈ digits radix n, d < radix :=
  lt_of_mem_digitsOnto hr (by simp)

theorem digitsOnto_ne_nil (radix n : Nat) (ds : List Nat) : digitsOnto radix n ds ≠ [] := by
  fun_induction digitsOnto radix n ds with
  | case1 n ds h => simp
  | case2 n ds h ih => exact ih

theorem digits_ne_nil (radix n : Nat) : digits radix n ≠ [] := digitsOnto_ne_nil radix n []

/-- Digits are worth less than the power of the radix that their number gives. -/
theorem ofDigits_lt {radix : Nat} {ds : List Nat} (h : ∀ d ∈ ds, d < radix) :
    ofDigits radix ds < radix ^ ds.length := by
  suffices hfold : ∀ (ds : List Nat) (n : Nat), (∀ d ∈ ds, d < radix) →
      ds.foldl (fun n d => n * radix + d) n < (n + 1) * radix ^ ds.length by
    simpa [ofDigits] using hfold ds 0 h
  intro ds
  induction ds with
  | nil => intro n _; simp
  | cons d ds ih =>
    intro n hds
    have hd : d < radix := hds d (by simp)
    rw [List.foldl_cons, List.length_cons, Nat.pow_succ']
    calc ds.foldl (fun n d => n * radix + d) (n * radix + d)
        < (n * radix + d + 1) * radix ^ ds.length := ih _ fun d' hd' => hds d' (by simp [hd'])
      _ ≤ (n + 1) * radix * radix ^ ds.length :=
          Nat.mul_le_mul_right _ (by rw [Nat.succ_mul]; omega)
      _ = (n + 1) * (radix * radix ^ ds.length) := Nat.mul_assoc _ _ _

/-- A number is less than the power of the radix that the number of its digits gives. -/
theorem lt_pow_length_digits {radix : Nat} (hr : 1 < radix) (n : Nat) :
    n < radix ^ (digits radix n).length := by
  have hlt := ofDigits_lt (lt_of_mem_digits hr (n := n))
  rwa [ofDigits_digits] at hlt

theorem digitValue?_digitChar : ∀ d < 16, digitValue? (digitChar d) = some d := by decide

theorem Base.hasDigit_digitChar {b : Base} {d : Nat} (h : d < b.radix) :
    b.hasDigit (digitChar d) = true := by
  have h16 : d < 16 := Nat.lt_of_lt_of_le h b.radix_le_sixteen
  simpa [Base.hasDigit, digitValue?_digitChar d h16] using h

namespace Numeral

theorem isRun_iff {b : Base} {t : Text} :
    isRun b t = true ↔ t ≠ [] ∧ ∀ c ∈ t, b.hasDigit c = true := by
  simp [isRun]

/-- The digits of a number are a run of digits. -/
theorem isRun_digitsText (b : Base) (n : Nat) : isRun b (digitsText b.radix n) = true := by
  rw [isRun_iff]
  constructor
  · simpa [digitsText] using digits_ne_nil b.radix n
  · intro c hc
    obtain ⟨d, hd, rfl⟩ := List.mem_map.1 hc
    exact b.hasDigit_digitChar (lt_of_mem_digits b.one_lt_radix d hd)

/-- The digits of a number as text are worth the number. -/
theorem valueOf_digitsText (b : Base) (n : Nat) : valueOf b (digitsText b.radix n) = n := by
  have hback : (digitsText b.radix n).filterMap digitValue? = digits b.radix n := by
    rw [digitsText, List.filterMap_map]
    refine (List.filterMap_congr fun d hd => ?_).trans List.filterMap_some
    have hlt := lt_of_mem_digits b.one_lt_radix d hd
    exact digitValue?_digitChar d (Nat.lt_of_lt_of_le hlt b.radix_le_sixteen)
  rw [valueOf, hback, ofDigits_digits]

/-! ## Numerals -/

/-- Whether a text has the form of a numeral, however long. -/
def IsNumeral (t : Text) : Prop := isRun (splitMarker t).1 (splitMarker t).2 = true

instance (t : Text) : Decidable (IsNumeral t) := by
  unfold IsNumeral
  infer_instance

example : IsNumeral ['0', 'x', 'F'] ∧ ¬ IsNumeral ['0', 'x'] := by decide

/-- No marker is a decimal digit. -/
theorem markedBase?_of_hasDigit {c : Char} (h : Base.decimal.hasDigit c = true) :
    markedBase? c = none := by
  have hx : c ≠ 'x' ∧ c ≠ 'X' ∧ c ≠ 'b' ∧ c ≠ 'B' ∧ c ≠ 'o' ∧ c ≠ 'O' := by
    refine ⟨?_, ?_, ?_, ?_, ?_, ?_⟩ <;> (rintro rfl; exact absurd h (by decide))
  simp [markedBase?, hx]

/-- A marked base is not the decimal one. -/
theorem ne_decimal_of_markedBase? {c : Char} {b : Base} (h : markedBase? c = some b) :
    b ≠ .decimal := by
  unfold markedBase? at h
  rintro rfl
  split at h
  · simp at h
  · split at h
    · simp at h
    · split at h <;> simp at h

theorem splitMarker_marked {c : Char} {b : Base} (h : markedBase? c = some b) (ds : Text) :
    splitMarker ('0' :: c :: ds) = (b, ds) := by
  simp [splitMarker, h]

theorem splitMarker_decimal {t : Text} (h : isRun .decimal t = true) :
    splitMarker t = (.decimal, t) := by
  unfold splitMarker
  split
  · rename_i c ds
    have hc := (isRun_iff.1 h).2 c (by simp)
    rw [markedBase?_of_hasDigit hc]
  · rfl

/-- A numeral is a marker with digits of its base behind it, or a run of decimal digits. -/
theorem isNumeral_iff {t : Text} :
    IsNumeral t ↔
      (∃ c b ds, t = '0' :: c :: ds ∧ markedBase? c = some b ∧ isRun b ds = true) ∨
        isRun .decimal t = true := by
  constructor
  · intro h
    unfold IsNumeral splitMarker at h
    split at h
    · rename_i c ds
      cases hb : markedBase? c with
      | none => exact .inr (by simpa [hb] using h)
      | some b => exact .inl ⟨c, b, ds, rfl, hb, by simpa [hb] using h⟩
    · exact .inr h
  · rintro (⟨c, b, ds, rfl, hb, hds⟩ | h)
    · rw [IsNumeral, splitMarker_marked hb]
      exact hds
    · rw [IsNumeral, splitMarker_decimal h]
      exact h

theorem IsNumeral.ne_nil {t : Text} (h : IsNumeral t) : t ≠ [] := by
  rcases isNumeral_iff.1 h with ⟨c, b, ds, rfl, -, -⟩ | h
  · simp
  · exact (isRun_iff.1 h).1

/-- Only a text that is not a numeral reads as none. -/
theorem read_eq_none_iff {t : Text} : read t = .ok none ↔ ¬ IsNumeral t := by
  unfold read IsNumeral
  split
  rename_i b ds hsplit
  rw [hsplit]
  cases hrun : isRun b ds with
  | false => simp
  | true =>
    simp only [Bool.not_true, Bool.false_eq_true, if_false]
    split <;> simp

/-! ## Writing -/

/-- A marked text reads as the value of its digits. -/
theorem read_marked {c : Char} {b : Base} {ds : Text} (h : markedBase? c = some b)
    (hds : isRun b ds = true) : read ('0' :: c :: ds) = .ok (some (valueOf b ds)) := by
  simp [read, splitMarker_marked h, hds, ne_decimal_of_markedBase? h]

/-- A run of decimal digits within the limit reads as its value. -/
theorem read_decimal {ds : Text} (hds : isRun .decimal ds = true) (hlen : ds.length ≤ digitLimit) :
    read ds = .ok (some (valueOf .decimal ds)) := by
  simp [read, splitMarker_decimal hds, hds, Nat.not_lt.2 hlen]

/-- What is written has a marker, or is decimal and within the limit. -/
theorem write_eq_ok {b : Base} {n : Nat} {s : Text} (h : write b n = .ok s) :
    (∃ c, markedBase? c = some b ∧ s = '0' :: c :: digitsText b.radix n) ∨
      (b = .decimal ∧ s = digitsText b.radix n ∧ s.length ≤ digitLimit) := by
  cases b with
  | decimal =>
    have hs : decimalText n = .ok s := h
    -- this is the one base in which a number can be too long
    simp only [decimalText] at hs
    split at hs
    · simp at hs
    · rename_i hlen
      rw [Except.ok.injEq] at hs
      subst hs
      exact .inr ⟨rfl, rfl, Nat.not_lt.1 hlen⟩
  | hex => exact .inl ⟨'x', rfl, (Except.ok.inj h).symm⟩
  | binary => exact .inl ⟨'b', rfl, (Except.ok.inj h).symm⟩
  | octal => exact .inl ⟨'o', rfl, (Except.ok.inj h).symm⟩

/-- What is written in a marked base has its marker. -/
theorem exists_marked_of_write {b : Base} (hb : b ≠ .decimal) {n : Nat} {s : Text}
    (h : write b n = .ok s) : ∃ c, markedBase? c = some b ∧ s = '0' :: c :: digitsText b.radix n :=
  (write_eq_ok h).resolve_right fun h => hb h.1

theorem isNumeral_write {b : Base} {n : Nat} {s : Text} (h : write b n = .ok s) : IsNumeral s := by
  rw [isNumeral_iff]
  rcases write_eq_ok h with ⟨c, hc, rfl⟩ | ⟨rfl, rfl, -⟩
  · exact .inl ⟨c, b, _, rfl, hc, isRun_digitsText b n⟩
  · exact .inr (isRun_digitsText .decimal n)

/-- **What is written reads back.**  If a number can be written in a base, the text reads as it. -/
theorem read_write {b : Base} {n : Nat} {s : Text} (h : write b n = .ok s) :
    read s = .ok (some n) := by
  rcases write_eq_ok h with ⟨c, hc, rfl⟩ | ⟨rfl, rfl, hlen⟩
  · rw [read_marked hc (isRun_digitsText b n), valueOf_digitsText]
  · rw [read_decimal (isRun_digitsText .decimal n) hlen, valueOf_digitsText]

/-- From the power of ten on that the limit gives, a number cannot be written in decimal. -/
theorem write_decimal_of_le {n : Nat} (h : 10 ^ digitLimit ≤ n) :
    write .decimal n = .error .tooLongToWrite := by
  show decimalText n = _
  rw [decimalText, if_pos]
  refine (Nat.pow_lt_pow_iff_right (by decide : 1 < 10)).1 ?_
  rw [digitsText, List.length_map]
  exact Nat.lt_of_le_of_lt h (lt_pow_length_digits (by decide) n)

/-! ## Respelling -/

/-- What a numeral is worth, unless it cannot be read. -/
def worth (s : Text) : Except NumeralError Nat := (read s).map (·.getD 0)

/-- A numeral written anew in a base. -/
def respelling (b : Base) (s : Text) : Except NumeralError Text := (worth s).bind fun n => write b n

theorem read_eq_worth {s : Text} (h : IsNumeral s) : read s = (worth s).map some := by
  unfold worth
  cases hr : read s with
  | error e => rfl
  | ok v? =>
    cases v? with
    | none => exact absurd h (read_eq_none_iff.1 hr)
    | some v => rfl

theorem worth_of_read {s : Text} {n : Nat} (h : read s = .ok (some n)) : worth s = .ok n := by
  rw [worth, h]
  rfl

/-- A numeral that is written anew has a worth, and that is what has been written. -/
theorem worth_of_respelling {b : Base} {s r : Text} (h : respelling b s = .ok r) :
    ∃ n : Nat, worth s = .ok n ∧ write b n = .ok r := exists_of_bind_eq_ok h

theorem isNumeral_respelling {b : Base} {s r : Text} (h : respelling b s = .ok r) :
    IsNumeral r := by
  obtain ⟨n, -, hw⟩ := worth_of_respelling h
  exact isNumeral_write hw

/-- Writing a numeral anew keeps what it is worth. -/
theorem worth_respelling {b : Base} {s r : Text} (h : respelling b s = .ok r) :
    worth r = worth s := by
  obtain ⟨n, hn, hw⟩ := worth_of_respelling h
  rw [hn, worth_of_read (read_write hw)]

/-- **Only the worth of a numeral matters when it is written anew**, not how it was spelled. -/
theorem respelling_respelling {b : Base} {s r : Text} (h : respelling b s = .ok r) (b' : Base) :
    respelling b' r = respelling b' s := by
  rw [respelling, respelling, worth_respelling h]

end Numeral

end Respell
