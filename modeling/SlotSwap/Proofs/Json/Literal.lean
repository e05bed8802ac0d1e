import SlotSwap.Proofs.Json.Grammar

/-! Literals of whole numbers, however long.

A literal is a numeral, or zero with a minus sign. None is taken for a number that it does
not name: one that a word of 64 bits holds is offered to the cell as what it is worth
(`ofJson_of_numeral`), and any other is a double, or too large to be one. `literal_exact`
says for every literal what becomes of it. -/
namespace SlotSwap.Json
open Number Text
open Decimal (Leading Numeral numeral_iff)

/-- A whole number as a text may write it: zero, or digits with no zero in front, and a minus
sign may precede either. -/
inductive Literal : List Char → Int → Prop where
  | mk (negative : Bool) {digits : List Char} (h : digits = ['0'] ∨ Leading digits) :
      Literal (withSign negative digits) (signed negative (Decimal.valueOf digits))

theorem Literal.of_numeral {text : List Char} {value : Int} (h : Numeral text value) :
    Literal text value := by
  cases h with
  | zero => exact .mk false (.inl rfl)
  | positive h => exact .mk false (.inr h)
  | negative h => exact .mk true (.inr h)

/-- Zero with a minus sign is the only literal that is not a numeral. -/
theorem Literal.numeral_or_zero {text : List Char} {value : Int} (h : Literal text value) :
    Numeral text value ∨ text = ['-', '0'] ∧ value = 0 := by
  obtain @⟨negative, digits, rfl | hdigits⟩ := h
  · cases negative with
    | false => exact .inl .zero
    | true => exact .inr ⟨rfl, rfl⟩
  · exact .inl (numeral_withSign hdigits negative)

/-! ### Texts that hold one value -/

section Whole
variable {text : String}

theorem ofJson_of_readDatum {datum : Datum}
    (h : readDatum (skipBlanks text.toList) = .ok (datum, [])) :
    Cell.ofJson text = (Cell.ofDatum datum).mapError Fault.refused := by
  simp only [Cell.ofJson, entire, readCell, h, bind, Except.bind]
  cases Cell.ofDatum datum with
  | ok cell => rfl
  | error why => rfl

theorem ofJson_of_readDatum_error {fault : Fault}
    (h : readDatum (skipBlanks text.toList) = .error fault) :
    Cell.ofJson text = .error fault := by
  simp only [Cell.ofJson, entire, readCell, h, bind, Except.bind]

end Whole

/-! ### Literals read -/

section Digits
variable {digits : List Char}

/-- A literal begins with a character that is no blank, and is read as a number. -/
theorem readDatum_literal (h : digits = ['0'] ∨ Leading digits) (negative : Bool) :
    readDatum (skipBlanks (withSign negative digits)) = readNumber negative digits := by
  rcases h with rfl | h
  · cases negative with
    | false => rfl
    | true => rfl
  · have hskip := skipBlanks_numeral (numeral_withSign h negative) []
    have hread := readDatum_withSign h negative []
    rw [List.append_nil] at hskip
    rw [List.append_nil, List.append_nil] at hread
    rw [hskip, hread]

theorem readNumber_of_fits (h : digits = ['0'] ∨ Leading digits)
    (hfits : Decimal.valueOf digits < wordLimit) (negative : Bool) :
    readNumber negative digits = .ok (whole negative (Decimal.valueOf digits), []) := by
  rcases h with rfl | h
  · rw [readNumber_zero ends_nil.noDigit, readEnding_of_ends ends_nil]
    rfl
  · have hread := readNumber_of_ends h ends_nil hfits negative
    rwa [List.append_nil] at hread

/-- Digits that no word holds stand for a double, if not for one that is too large. -/
theorem real_cases (negative : Bool) (worth : Nat) (power : Int) :
    (∃ number, real negative worth power = .ok (.double number)) ∨
      real negative worth power = .error (.malformed .numberOutOfRange) := by
  unfold real
  split
  · exact .inl ⟨_, rfl⟩
  · exact .inr rfl

theorem readNumber_of_le (h : Leading digits) (hlimit : wordLimit ≤ Decimal.valueOf digits)
    (negative : Bool) :
    (∃ number, readNumber negative digits = .ok (.double number, [])) ∨
      readNumber negative digits = .error (.malformed .numberOutOfRange) := by
  obtain ⟨worth, dropped, hdropped, hread⟩ :=
    readNumber_leading_of_le h ends_nil.noDigit hlimit negative
  rw [List.append_nil] at hread
  have hending : readEnding negative worth dropped [] =
      (do return (← real negative worth dropped, [])) := by
    rw [readEnding, exponent?_eq_none (by simp), if_neg (Nat.ne_of_gt hdropped)]
    · intro rest hrest
      cases hrest
  rw [hread, hending]
  rcases real_cases negative worth dropped with ⟨number, hreal⟩ | hreal
  · rw [hreal]
    exact .inl ⟨number, rfl⟩
  · rw [hreal]
    exact .inr rfl

end Digits

/-! ### What becomes of a literal -/

section Outcome
variable {text : String} {value : Int} {digits : List Char}

theorem ofJson_of_fits (negative : Bool) (h : digits = ['0'] ∨ Leading digits)
    (htext : text.toList = withSign negative digits)
    (hfits : Decimal.valueOf digits < wordLimit) :
    Cell.ofJson text =
      (Cell.ofDatum (whole negative (Decimal.valueOf digits))).mapError Fault.refused := by
  apply ofJson_of_readDatum
  rw [htext, readDatum_literal h, readNumber_of_fits h hfits]

/-- A numeral that some word of 64 bits holds is offered to the cell as what it is worth. -/
theorem ofJson_of_numeral (h : Numeral text.toList value) (hleast : -0x8000000000000000 ≤ value)
    (hlimit : value < 0x10000000000000000) :
    Cell.ofJson text = (Cell.ofWhole value).mapError Fault.refused := by
  generalize htext : text.toList = letters at h
  cases h with
  | zero => exact ofJson_of_fits false (.inl rfl) htext (by decide)
  | positive h =>
    have hfits : Decimal.valueOf letters < wordLimit := by
      unfold wordLimit
      omega
    rw [ofJson_of_fits false (.inr h) htext hfits,
      ofDatum_whole hfits (by simp)]
    rfl
  | @negative digits h =>
    have hdepth : Decimal.valueOf digits ≤ signedDepth := by
      unfold signedDepth
      omega
    have hfits : Decimal.valueOf digits < wordLimit := by
      unfold wordLimit
      omega
    rw [ofJson_of_fits true (.inr h) htext hfits,
      ofDatum_whole hfits fun _ => ⟨Decimal.valueOf_pos h, hdepth⟩]
    rfl

/-- A literal that no word of 64 bits holds is a double, or too large to be one. -/
theorem ofJson_of_beyond (h : Literal text.toList value)
    (hbeyond : value < -0x8000000000000000 ∨ 0x10000000000000000 ≤ value) :
    (∃ number, Cell.ofJson text = .error (.refused (.wrongKind (.double number) .cell))) ∨
      Cell.ofJson text = .error (.malformed .numberOutOfRange) := by
  generalize htext : text.toList = letters at h
  obtain @⟨negative, digits, hdigits⟩ := h
  by_cases hfits : Decimal.valueOf digits < wordLimit
  · -- Only a negative number can fit in a word without a sign and be out of range with one.
    have hnegative : negative = true ∧ signedDepth < Decimal.valueOf digits := by
      unfold wordLimit at hfits
      unfold signedDepth
      unfold signed at hbeyond
      split at hbeyond
      · exact ⟨by assumption, by omega⟩
      · omega
    left
    rw [ofJson_of_fits negative hdigits htext hfits, hnegative.1, whole, if_neg (by simp),
      if_neg fun hdepth => Nat.not_le.mpr hnegative.2 hdepth.2]
    exact ⟨_, rfl⟩
  · have hleading : Leading digits := by
      rcases hdigits with rfl | h
      · exact absurd (by decide) hfits
      · exact h
    rcases readNumber_of_le hleading (Nat.le_of_not_lt hfits) negative with ⟨number, hread⟩ | hread
    · left
      rw [ofJson_of_readDatum (by rw [htext, readDatum_literal hdigits, hread])]
      exact ⟨number, rfl⟩
    · right
      exact ofJson_of_readDatum_error (by rw [htext, readDatum_literal hdigits, hread])

end Outcome

/-- The text holds a value that a cell refuses with a message. -/
def RefusedWith (text message : String) : Prop :=
  ∃ why, Cell.ofJson text = .error (.refused why) ∧ why.message Wording.json = message

/-- **No literal is taken for a number that it does not name.** One that is in range is the
cell of its value, one that only a wider word of up to 64 bits holds is refused by name, and
any other, like zero with a minus sign, is refused as a double if it is not too large for one. -/
theorem literal_exact {text : String} {value : Int} (h : Literal text.toList value) :
    (Cell.Holds value → text ≠ "-0" →
      ∃ cell : Cell, Cell.ofJson text = .ok cell ∧ cell.value.toInt = value) ∧
    (text = "-0" → RefusedWith text "invalid type: floating point `-0.0`, expected i32") ∧
    (¬Cell.Holds value → -0x8000000000000000 ≤ value → value < 0x10000000000000000 →
      RefusedWith text ("invalid value: integer `" ++ text ++ "`, expected i32")) ∧
    (value < -0x8000000000000000 ∨ 0x10000000000000000 ≤ value →
      (∃ number : Binary, RefusedWith text
        ("invalid type: floating point `" ++ Wording.json.layout.render number ++
          "`, expected i32")) ∨
      Cell.ofJson text = .error (.malformed .numberOutOfRange)) := by
  have hnumeral (hzero : text ≠ "-0" ∨ value ≠ 0) : Numeral text.toList value := by
    rcases h.numeral_or_zero with hnumeral | ⟨htext, hvalue⟩
    · exact hnumeral
    · exact absurd hzero (by simp [← String.toList_inj, htext, hvalue])
  refine ⟨?_, ?_, ?_, ?_⟩
  · intro hholds hzero
    obtain ⟨hleast, hlimit⟩ := hholds
    rw [ofJson_of_numeral (hnumeral (.inl hzero)) (by omega) (by omega), Cell.ofWhole,
      if_pos ⟨hleast, hlimit⟩]
    exact ⟨_, rfl, Int32.toInt_ofInt_of_le hleast hlimit⟩
  · rintro rfl
    exact ⟨.wrongKind (.double (.finite true 0)) .cell, by decide +kernel, by decide +kernel⟩
  · intro hholds hleast hlimit
    have hnumeral := hnumeral (.inr (by rintro rfl; exact hholds (by decide)))
    have htext : text = Decimal.ofInt value := String.toList_inj.mp (numeral_iff.mp hnumeral)
    rw [RefusedWith, ofJson_of_numeral hnumeral hleast hlimit, Cell.ofWhole, if_neg hholds]
    exact ⟨.outOfRange value, rfl, by rw [Refusal.message_outOfRange, htext]⟩
  · intro hbeyond
    rcases ofJson_of_beyond h hbeyond with ⟨number, hrefused⟩ | hrange
    · exact .inl ⟨number, _, hrefused, Refusal.message_double _ number⟩
    · exact .inr hrange

/-- The literals next to the edges: the least cell, zero with a sign, the least word of 64 bits
and the first number beyond the largest one. -/
theorem literal_exact_edges :
    (∃ cell : Cell, Cell.ofJson "-2147483648" = .ok cell ∧ cell.value.toInt = -0x80000000) ∧
    RefusedWith "-0" "invalid type: floating point `-0.0`, expected i32" ∧
    RefusedWith "-9223372036854775808"
      "invalid value: integer `-9223372036854775808`, expected i32" ∧
    ((∃ number : Binary, RefusedWith "18446744073709551616"
        ("invalid type: floating point `" ++ Wording.json.layout.render number ++
          "`, expected i32")) ∨
      Cell.ofJson "18446744073709551616" = .error (.malformed .numberOutOfRange)) := by
  have hcell : Literal "-2147483648".toList (-0x80000000) := .of_numeral (numeral_iff.mpr rfl)
  have hzero : Literal "-0".toList 0 := .mk true (.inl rfl)
  have hword : Literal "-9223372036854775808".toList (-0x8000000000000000) :=
    .of_numeral (numeral_iff.mpr rfl)
  have hbeyond : Literal "18446744073709551616".toList 0x10000000000000000 :=
    .of_numeral (numeral_iff.mpr rfl)
  exact ⟨(literal_exact hcell).1 (by decide) (by decide), (literal_exact hzero).2.1 rfl,
    (literal_exact hword).2.2.1 (by decide) (by decide) (by decide),
    (literal_exact hbeyond).2.2.2 (.inr (by decide))⟩

end SlotSwap.Json
