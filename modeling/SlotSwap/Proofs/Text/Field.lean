import Mathlib.Data.List.Basic
import SlotSwap.Proofs.Text.Numeral
import SlotSwap.Proofs.Value.Whole
import SlotSwap.Text.Record

/-! Numbers read out of their fields.

What fills a field is taken off first (`stripped`); what is left of the text is the sign
and the mark of the number, zeros, and its digits (`stripped_chars`), and however many
zeros there are they tell the number (`value_eq_of_signed_eq`). So different numbers stand
differently in a field, if no number is written with the character that fills it
(`set_injective`). -/
namespace SlotSwap.Text.Field

/-- No number is written with the character that fills the field. -/
def Legible (f : Field) : Prop := ∀ value, f.fill ∉ f.sign value ++ f.magnitude value

/-- A text without what fills the field beside it. -/
def stripped (f : Field) (text : List Char) : List Char :=
  if f.zeros then text else text.filter (· ≠ f.fill)

/-- A number with zeros between its sign and its digits. -/
def signed (f : Field) (zeros : Nat) (value : Int32) : List Char :=
  f.sign value ++ (List.replicate zeros '0' ++ f.magnitude value)

section
variable {f : Field} {value other : Int32}

/-! ### The text without its filling -/

theorem blank_not_mem_sign : ' ' ∉ f.sign value := by
  unfold sign
  split
  · split
    · decide
    · split <;> decide
  · split <;> decide
  · split <;> decide

theorem blank_not_mem_magnitude : ' ' ∉ f.magnitude value := by
  unfold magnitude
  split
  · exact Decimal.not_mem_digits rfl _
  · exact Hexadecimal.not_mem_digits rfl _
  · exact Hexadecimal.not_mem_capitals rfl _

theorem legible_of_blank (h : f.fill = ' ') : f.Legible := by
  intro value
  rw [h]
  exact List.not_mem_append blank_not_mem_sign blank_not_mem_magnitude

/-- Without what fills its field a number is its sign and its digits, zeros apart. -/
theorem stripped_chars (hf : f.Legible) (value : Int32) :
    ∃ zeros, f.stripped (f.chars value) = f.signed zeros value := by
  unfold stripped chars
  split
  · exact ⟨_, List.append_assoc ..⟩
  · -- Nothing but the filling is taken off, for the number is legible.
    refine ⟨0, ?_⟩
    have hfill (room : Nat) : (List.replicate room f.fill).filter (· ≠ f.fill) = [] := by simp
    have hnumber : (f.sign value ++ f.magnitude value).filter (· ≠ f.fill) =
        f.sign value ++ f.magnitude value := by
      rw [List.filter_eq_self]
      intro c hc
      refine decide_eq_true ?_
      rintro rfl
      exact hf value hc
    rw [List.filter_append, List.filter_append, hfill, hfill, hnumber, List.nil_append,
      List.append_nil]
    rfl

/-! ### The number -/

/-- The sign of a decimal number is told from its text, whatever zeros stand behind it. -/
theorem splitSign_signed (h : f.digits = .decimal) (zeros : Nat) (value : Int32) :
    Decimal.splitSign (f.signed zeros value) =
      (decide (value.toInt < 0),
        List.replicate zeros '0' ++ Decimal.digits value.toInt.natAbs) := by
  have hunsigned := Decimal.splitSign_of_isNumeral
    (Decimal.isNumeral_zeros_append zeros value.toInt.natAbs)
  unfold signed sign magnitude
  rw [h]
  by_cases hnegative : value.toInt < 0
  · simp [hnegative, Decimal.splitSign]
  · cases f.plus with
    | true => simp [hnegative, Decimal.splitSign]
    | false => simp [hnegative, hunsigned]

/-- A decimal number is read back from its text. -/
theorem toInt?_signed (h : f.digits = .decimal) (zeros : Nat) (value : Int32) :
    Decimal.toInt? (f.signed zeros value) = some value.toInt := by
  simp only [Decimal.toInt?, splitSign_signed h, Decimal.isNumeral_zeros_append,
    Decimal.valueOf_zeros_append, Decimal.valueOf_digits, decide_eq_true_eq, if_true]
  split
  · congr
    omega
  · congr
    omega

/-- The sign, zeros and the digits tell the number. -/
theorem value_eq_of_signed_eq {zeros zeros' : Nat}
    (h : f.signed zeros value = f.signed zeros' other) : value = other := by
  cases hdigits : f.digits with
  | decimal =>
    have hread := congrArg Decimal.toInt? h
    rw [toInt?_signed hdigits, toInt?_signed hdigits] at hread
    exact Int32.toInt_inj.mp (Option.some.inj hread)
  | hexadecimal =>
    unfold signed sign magnitude at h
    rw [hdigits] at h
    exact Number.Word.eq_of_toNat_toUInt32_eq
      (Hexadecimal.eq_of_zeros_append_eq Hexadecimal.valueOf_digits (List.append_cancel_left h))
  | markedCapitals =>
    unfold signed sign magnitude at h
    rw [hdigits] at h
    exact Number.Word.eq_of_toNat_toUInt32_eq
      (Hexadecimal.eq_of_zeros_append_eq Hexadecimal.valueOf_capitals (List.append_cancel_left h))

/-- Different numbers stand differently in a field. -/
theorem set_injective (hf : f.Legible) (h : f.set value = f.set other) : value = other := by
  have hchars := congrArg String.toList h
  rw [set, set, String.toList_ofList, String.toList_ofList] at hchars
  obtain ⟨zeros, hvalue⟩ := stripped_chars hf value
  obtain ⟨zeros', hother⟩ := stripped_chars hf other
  rw [hchars, hother] at hvalue
  exact (value_eq_of_signed_eq hvalue).symm

/-- A field that is filled with ones does not tell one from eleven. -/
example : set { width := 2, fill := '1' } 1 = set { width := 2, fill := '1' } 11 := by decide

end

end SlotSwap.Text.Field
