/-
  Integers come back from their text.

  An integer is written as its sign, if it is negative, and its decimal digits.  When such a text is read
  as a typed integer, none of the things happen that a typed integer allows for: no blank is cut off, no
  marker is dropped and no underscore is passed over.  So the digits are read as they were written
  (`Numeral.integer?_signed`), and two integers with one text are one (`Numeral.signed_inj`).
-/
import Mathlib.Data.List.TakeWhile
import Respell.Numeral.Integer
import Respell.Proofs.Numerals

namespace Respell.Numeral

/-! ## Digits as they are typed -/

/-- What a decimal digit is not. -/
theorem digitChar_plain : ∀ d < 10, isPadding (digitChar d) = false ∧ digitChar d ≠ '_' ∧
    digitChar d ≠ '-' ∧ digitChar d ≠ '+' := by
  decide +kernel

theorem typedDigit?_digitChar {d : Nat} (h : d < 10) : typedDigit? (digitChar d) = some d := by
  rw [typedDigit?, digitValue?_digitChar d (by omega)]

theorem typedDigits?_cons {d : Nat} (h : d < 10) (fresh : Bool) (t : Text) :
    typedDigits? 10 fresh (digitChar d :: t) = (typedDigits? 10 false t).map (d :: ·) := by
  rw [typedDigits?, typedDigit?_digitChar h]
  · dsimp only
    rw [if_pos h]
  · exact (digitChar_plain d h).2.1

theorem typedDigits?_map {ds : List Nat} (h : ∀ d ∈ ds, d < 10) :
    typedDigits? 10 false (ds.map digitChar) = some ds := by
  induction ds with
  | nil => rfl
  | cons d ds ih =>
    obtain ⟨hd, hds⟩ := List.forall_mem_cons.1 h
    rw [List.map_cons, typedDigits?_cons hd, ih hds]
    rfl

/-- Digits are typed digits also at a place where a digit has to come, if there is one. -/
theorem typedDigits?_fresh {ds : List Nat} (hne : ds ≠ []) (h : ∀ d ∈ ds, d < 10) :
    typedDigits? 10 true (ds.map digitChar) = some ds := by
  cases ds with
  | nil => exact absurd rfl hne
  | cons d ds =>
    obtain ⟨hd, hds⟩ := List.forall_mem_cons.1 h
    rw [List.map_cons, typedDigits?_cons hd, typedDigits?_map hds]
    rfl

/-! ## Texts as they are typed -/

theorem trimPadding_eq_self {t : Text} (h : ∀ c ∈ t, isPadding c = false) : trimPadding t = t := by
  have hdrop : ∀ u : Text, (∀ c ∈ u, isPadding c = false) → u.dropWhile isPadding = u := by
    intro u hu
    cases u with
    | nil => rfl
    | cons c u =>
      rw [List.dropWhile_cons, hu c List.mem_cons_self]
      rfl
  rw [trimPadding, hdrop t h, hdrop t.reverse fun c hc => h c (List.mem_reverse.1 hc),
    List.reverse_reverse]

theorem splitSign_of_run {t : Text} (h : ∀ c ∈ t, c ≠ '-' ∧ c ≠ '+') : splitSign t = (false, t) := by
  unfold splitSign
  split
  · exact absurd rfl (h _ List.mem_cons_self).1
  · exact absurd rfl (h _ List.mem_cons_self).2
  · rfl

theorem dropMarker_of_run {t : Text} (h : isRun .decimal t = true) : dropMarker 10 t = t := by
  unfold dropMarker
  split
  · rename_i c ds
    have hc : markedBase? c = none :=
      markedBase?_of_hasDigit ((isRun_iff.1 h).2 c (List.mem_cons_of_mem _ List.mem_cons_self))
    rw [hc]
  · rfl

/-- A text that is a sign and digits, but for blanks around it. -/
theorem integer?_of_split {t : Text} {n : Nat} (negative : Bool)
    (hsplit : splitSign (trimPadding t) = (negative, digitsText 10 n))
    (hlen : (digitsText 10 n).length ≤ digitLimit) :
    integer? 10 t = .ok (some (if negative then -(n : Int) else n)) := by
  have hlt : ∀ d ∈ digits 10 n, d < 10 := lt_of_mem_digits (by decide)
  have hplace : ∀ c ∈ digitsText 10 n, isPlace 10 c = true := by
    intro c hc
    obtain ⟨d, hd, rfl⟩ := List.mem_map.1 hc
    simp [isPlace, typedDigit?_digitChar (hlt d hd), hlt d hd]
  have htyped : typedDigits? 10 true (digitsText 10 n) = some (digits 10 n) :=
    typedDigits?_fresh (digits_ne_nil 10 n) hlt
  have hfits : ¬ digitLimit < (digits 10 n).length := by
    rw [digitsText, List.length_map] at hlen
    omega
  have hbody : dropMarker 10 (digitsText 10 n) = digitsText 10 n :=
    dropMarker_of_run (isRun_digitsText .decimal n)
  unfold integer?
  rw [hsplit]
  dsimp only
  rw [hbody, List.takeWhile_eq_self_iff.2 hplace, htyped, List.dropWhile_eq_nil_iff.2 hplace]
  dsimp only
  rw [if_neg fun h => hfits h.2, ofDigits_digits]
  rfl

/-! ## Integers -/

theorem integer?_digitsText {n : Nat} {t : Text} (h : decimalText n = .ok t) :
    integer? 10 t = .ok (some (n : Int)) ∧ integer? 10 ('-' :: t) = .ok (some (-(n : Int))) := by
  unfold decimalText at h
  dsimp only at h
  split at h
  · cases h
  · rename_i hlen
    obtain rfl := Except.ok.inj h
    have hplain : ∀ c ∈ digitsText 10 n, isPadding c = false ∧ c ≠ '-' ∧ c ≠ '+' := by
      intro c hc
      obtain ⟨d, hd, rfl⟩ := List.mem_map.1 hc
      obtain ⟨hpadding, -, hsign⟩ := digitChar_plain d (lt_of_mem_digits (by decide) d hd)
      exact ⟨hpadding, hsign⟩
    constructor
    · refine integer?_of_split false ?_ (Nat.not_lt.1 hlen)
      rw [trimPadding_eq_self fun c hc => (hplain c hc).1]
      exact splitSign_of_run fun c hc => (hplain c hc).2
    · refine integer?_of_split true ?_ (Nat.not_lt.1 hlen)
      rw [trimPadding_eq_self (List.forall_mem_cons.2 ⟨by decide, fun c hc => (hplain c hc).1⟩)]
      rfl

/-- **An integer comes back** from its text. -/
theorem integer?_signed {i : Int} {t : Text} (h : signed i = .ok t) :
    integer? 10 t = .ok (some i) := by
  cases i with
  | ofNat n => exact (integer?_digitsText h).1
  | negSucc n =>
    obtain ⟨u, hu, rfl⟩ := exists_of_map_eq_ok h
    exact (integer?_digitsText hu).2

theorem signed_inj {i j : Int} {t : Text} (hi : signed i = .ok t) (hj : signed j = .ok t) : i = j :=
  Option.some.inj (Except.ok.inj ((integer?_signed hi).symm.trans (integer?_signed hj)))

end Respell.Numeral
