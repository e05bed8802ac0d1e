import Mathlib.Data.List.Basic
import Mathlib.Data.List.Induction
import SlotSwap.Text.Decimal

/-! Numerals with no zero in front.

A number is written in one way only: a run of digits that does not begin with zero is
the numeral of what it is worth (`digits_valueOf`), and so is one with a minus sign in
front (`numeral_iff`). -/
namespace SlotSwap.Text.Decimal

/-- A run of digits, at least one, that does not begin with zero. -/
structure Leading (text : List Char) : Prop where
  ne_nil : text ≠ []
  noZero : text.head? ≠ some '0'
  digits : ∀ c ∈ text, c.isDigit = true

/-- How a whole number is written: zero, or digits with no zero in front that a minus sign
may precede. -/
inductive Numeral : List Char → Int → Prop where
  | zero : Numeral ['0'] 0
  | positive {text : List Char} (h : Leading text) : Numeral text (valueOf text)
  | negative {text : List Char} (h : Leading text) : Numeral ('-' :: text) (-valueOf text)

/-! ### Digits -/

theorem digitValue_lt {c : Char} (h : c.isDigit = true) : digitValue c < 10 := by
  have hrange := Char.isDigit_iff_toNat.mp h
  simp only [digitValue, Char.reduceToNat] at hrange ⊢
  omega

theorem digits_digitValue {c : Char} (h : c.isDigit = true) : digits (digitValue c) = [c] := by
  have hlt := digitValue_lt h
  have hrange := Char.isDigit_iff_toNat.mp h
  rw [digits, Nat.toDigits_of_lt_base hlt]
  congr 1
  rw [← Char.toNat_inj, Nat.toNat_digitChar_of_lt_ten hlt]
  simp only [digitValue, Char.reduceToNat] at hrange ⊢
  omega

theorem valueOf_append_singleton (text : List Char) (c : Char) :
    valueOf (text ++ [c]) = 10 * valueOf text + digitValue c := by
  rw [valueOf, Nat.ofDigitChars_append, Nat.ofDigitChars_cons, Nat.ofDigitChars_nil]
  rfl

theorem not_mem_digits {c : Char} (h : c.isDigit = false) (n : Nat) : c ∉ digits n := by
  intro hc
  rw [isDigit_of_mem_digits hc] at h
  cases h

/-! ### The one numeral of a number -/

theorem Leading.of_append {front back : List Char} (h : Leading (front ++ back))
    (hfront : front ≠ []) : Leading front where
  ne_nil := hfront
  noZero := by
    have hzero := h.noZero
    rwa [List.head?_append_of_ne_nil _ hfront] at hzero
  digits := fun c hc => h.digits c (List.mem_append_left _ hc)

/-- Digits with no zero in front are the numeral of their worth. The induction takes the
last digit off, as the numeral is made. -/
theorem digits_valueOf {text : List Char} (h : Leading text) : digits (valueOf text) = text := by
  induction text using List.reverseRecOn with
  | nil => exact absurd rfl h.ne_nil
  | append_singleton front c ih =>
    have hc : c.isDigit = true := h.digits c (by simp)
    rw [valueOf_append_singleton]
    by_cases hfront : front = []
    · subst hfront
      rw [valueOf, Nat.ofDigitChars_nil, Nat.mul_zero, Nat.zero_add, digits_digitValue hc]
      rfl
    · have hleading := h.of_append hfront
      have hdigits := ih hleading
      have hpos : 0 < valueOf front := by
        refine Nat.pos_of_ne_zero fun hzero => hleading.noZero ?_
        rw [← hdigits, hzero]
        rfl
      rw [digits, ← Nat.toDigits_append_toDigits (by decide) hpos (digitValue_lt hc)]
      exact congrArg₂ (· ++ ·) hdigits (digits_digitValue hc)

theorem valueOf_pos {text : List Char} (h : Leading text) : 0 < valueOf text := by
  refine Nat.pos_of_ne_zero fun hzero => h.noZero ?_
  rw [← digits_valueOf h, hzero]
  rfl

theorem leading_digits {n : Nat} (h : 0 < n) : Leading (digits n) where
  ne_nil := digits_ne_nil n
  noZero := by
    induction n using Nat.strongRecOn with
    | ind n ih =>
      by_cases hn : n < 10
      · rw [digits, Nat.toDigits_of_lt_base hn]
        simpa using Nat.ne_of_gt h
      · rw [digits, Nat.toDigits_of_base_le (by decide) (Nat.le_of_not_lt hn),
          List.head?_append_of_ne_nil _ Nat.toDigits_ne_nil]
        exact ih (n / 10) (by omega) (by omega)
  digits := fun _ hc => isDigit_of_mem_digits hc

/-- **A number has one numeral**, the one that it is written with. -/
theorem numeral_iff {text : List Char} {value : Int} :
    Numeral text value ↔ text = (ofInt value).toList := by
  constructor
  · intro h
    cases h with
    | zero => rfl
    | positive h => exact (digits_valueOf h).symm.trans (toList_ofNat _).symm
    | @negative text h =>
      obtain ⟨n, hn⟩ := Nat.exists_eq_add_one.mpr (valueOf_pos h)
      have hvalue : -(valueOf text : Int) = Int.negSucc n := by omega
      rw [hvalue, ofInt, String.toList_append, toList_ofNat, ← hn, digits_valueOf h]
      rfl
  · rintro rfl
    cases value with
    | ofNat n =>
      rw [ofInt, toList_ofNat]
      cases n with
      | zero => exact .zero
      | succ n =>
        have h := Numeral.positive (leading_digits (Nat.succ_pos n))
        rwa [valueOf_digits] at h
    | negSucc n =>
      have h := Numeral.negative (leading_digits (Nat.succ_pos n))
      rw [valueOf_digits] at h
      rw [ofInt, String.toList_append, toList_ofNat]
      exact h

/-! ### Zeros in front -/

theorem valueOf_zeros_append (zeros : Nat) (text : List Char) :
    valueOf (List.replicate zeros '0' ++ text) = valueOf text := by
  induction zeros with
  | zero => rfl
  | succ zeros ih => exact ih

theorem isNumeral_zeros_append (zeros n : Nat) :
    isNumeral (List.replicate zeros '0' ++ digits n) = true := by
  induction zeros with
  | zero => exact isNumeral_digits n
  | succ zeros ih =>
    rw [isNumeral, Bool.and_eq_true] at ih
    exact ih.2

end SlotSwap.Text.Decimal
