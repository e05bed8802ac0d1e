import SlotSwap.Proofs.Json.Literal

/-! One number from many sources.

A whole number reaches a cell as a word of some width and signedness, or as a numeral in a
JSON text. What becomes of it hangs on the number alone (`sources_agree`): both ways meet at
`Cell.ofWhole`, the words by their worth and the numeral because every number that one of
the words can hold is read as it stands. -/
namespace SlotSwap.Json
open Number Text
open Decimal (numeral_iff)

section Word
variable {datum other : Datum} {value : Int}

/-- A word and the numeral of its worth are accepted as one cell or refused for one reason. -/
theorem ofJson_ofInt (h : datum.word? = some value) :
    Cell.ofJson (Decimal.ofInt value) = (Cell.ofDatum datum).mapError Fault.refused := by
  obtain ⟨hleast, hlimit⟩ := Datum.word?_bounds h
  rw [Cell.ofDatum_of_word? h, ofJson_of_numeral (numeral_iff.mpr rfl) hleast hlimit]

theorem accepted_of_holds (h : datum.word? = some value) (hholds : Cell.Holds value) :
    ∃ cell : Cell, Cell.ofDatum datum = .ok cell ∧ cell.value.toInt = value := by
  obtain ⟨cell, hcell⟩ := Cell.exists_value_iff.mpr hholds
  exact ⟨cell, (Cell.ofDatum_of_word? h).trans (Cell.ofWhole_eq_ok_iff.mpr hcell), hcell⟩

theorem refused_of_not_holds (h : datum.word? = some value) (hholds : ¬Cell.Holds value) :
    Cell.ofDatum datum = .error (.outOfRange value) := by
  rw [Cell.ofDatum_of_word? h, Cell.ofWhole, if_neg hholds]

/-- The message is the same in the words of a program and in those of a JSON text. -/
theorem message_ofJson_ofInt (h : datum.word? = some value) :
    (Cell.ofJson (Decimal.ofInt value)).mapError Fault.message =
      (Cell.ofDatum datum).mapError (Refusal.message Wording.plain) := by
  rw [ofJson_ofInt h]
  by_cases hholds : Cell.Holds value
  · obtain ⟨cell, hcell, -⟩ := accepted_of_holds h hholds
    rw [hcell]
    rfl
  · rw [refused_of_not_holds h hholds]
    have hmessage := Refusal.message_outOfRange Wording.json value
    rw [← Refusal.message_outOfRange Wording.plain value] at hmessage
    exact congrArg Except.error hmessage

end Word

/-- **What a cell makes of a whole number hangs on the number alone.** A word of at most 64
bits gives the cell of its worth, or is refused by name if that is out of range; words of one
worth fare alike, whatever their widths and signs; and the numeral of the worth in a JSON text
gives the same cell or the same message. Words of 128 bits and floating-point numbers are
refused whatever they are worth. -/
theorem sources_agree :
    (∀ (datum : Datum) (value : Int), datum.word? = some value →
      (Cell.Holds value →
        ∃ cell : Cell, Cell.ofDatum datum = .ok cell ∧ cell.value.toInt = value) ∧
      (¬Cell.Holds value → ∃ why, Cell.ofDatum datum = .error why ∧
        why.message Wording.plain =
          "invalid value: integer `" ++ Decimal.ofInt value ++ "`, expected i32") ∧
      (∀ other : Datum, other.word? = some value → Cell.ofDatum other = Cell.ofDatum datum) ∧
      Cell.ofJson (Decimal.ofInt value) = (Cell.ofDatum datum).mapError Fault.refused ∧
      (Cell.ofJson (Decimal.ofInt value)).mapError Fault.message =
        (Cell.ofDatum datum).mapError (Refusal.message Wording.plain)) ∧
    (∀ word : BitVec 128,
      Cell.ofDatum (.int128 word) = .error (.wrongKind (.int128 word) .cell) ∧
      Cell.ofDatum (.uint128 word) = .error (.wrongKind (.uint128 word) .cell)) ∧
    (∀ number : Binary,
      Cell.ofDatum (.single number) = .error (.wrongKind (.single number) .cell) ∧
      Cell.ofDatum (.double number) = .error (.wrongKind (.double number) .cell)) := by
  refine ⟨?_, fun word => ⟨rfl, rfl⟩, fun number => ⟨rfl, rfl⟩⟩
  intro datum value h
  refine ⟨accepted_of_holds h, ?_, ?_, ofJson_ofInt h, message_ofJson_ofInt h⟩
  · intro hholds
    exact ⟨_, refused_of_not_holds h hholds, Refusal.message_outOfRange _ value⟩
  · intro other hother
    rw [Cell.ofDatum_of_word? h, Cell.ofDatum_of_word? hother]

/-- The first number beyond the largest cell, as an unsigned word of 32 bits, as a signed one
of 64 and as a numeral. -/
theorem sources_agree_beyond :
    (∃ why, Cell.ofDatum (.uint32 0x80000000) = .error why ∧
      why.message Wording.plain = "invalid value: integer `2147483648`, expected i32") ∧
    Cell.ofDatum (.int64 0x80000000) = Cell.ofDatum (.uint32 0x80000000) ∧
    Cell.ofJson "2147483648" = (Cell.ofDatum (.uint32 0x80000000)).mapError Fault.refused := by
  obtain ⟨-, hrefused, hsame, hread, -⟩ :=
    sources_agree.1 (.uint32 0x80000000) 0x80000000 (by decide)
  exact ⟨hrefused (by decide), hsame (.int64 0x80000000) (by decide), hread⟩

end SlotSwap.Json
