import SlotSwap.Proofs.Json.Grammar

/-! Lists of cells written and read back.

A list is written without blanks, and a text from which a list is read is that written
text with blanks put in: `filter_listText` takes them out again. So writing and reading
undo each other, and two texts hold the same list exactly when they differ in blanks
alone (`list_round_trip`). -/
namespace SlotSwap.Json
open Text
open Decimal (Leading Numeral numeral_iff)

/-- What is left of a text when its blanks are taken out. -/
def withoutBlanks (text : String) : String :=
  String.ofList (text.toList.filter (· ∉ blankChars))

/-- Numerals with a comma between neighbours. -/
def separated (values : List Int) : List Char :=
  [','].intercalate (values.map fun value => (Decimal.ofInt value).toList)

theorem toList_listToJson (cells : List Cell) :
    (Cell.listToJson cells).toList =
      '[' :: (separated (cells.map fun cell => cell.value.toInt) ++ [']']) := by
  simp [Cell.listToJson, Cell.toJson, separated, String.toList_intercalate, Function.comp_def]

section Separated
variable {value : Int} {values : List Int}

theorem separated_singleton : separated [value] = (Decimal.ofInt value).toList :=
  List.intercalate_singleton

theorem separated_cons (h : values ≠ []) :
    separated (value :: values) = (Decimal.ofInt value).toList ++ ',' :: separated values := by
  rw [separated, List.map_cons, List.intercalate_cons_of_ne_nil (by simpa using h),
    List.append_assoc]
  rfl

end Separated

/-! ### Written texts -/

theorem cellText_ofInt (value : Int) : CellText (Decimal.ofInt value).toList value := by
  have h := CellText.mk blanks_nil (numeral_iff.mpr (rfl : _ = (Decimal.ofInt value).toList))
    blanks_nil
  rwa [List.nil_append, List.append_nil] at h

theorem inside_separated (values : List Int) : Inside (separated values) values := by
  cases values with
  | nil => exact .none blanks_nil
  | cons value values =>
    refine .items ?_
    induction values generalizing value with
    | nil =>
      rw [separated_singleton]
      exact .last (cellText_ofInt value)
    | cons next values ih =>
      rw [separated_cons (List.cons_ne_nil _ _)]
      exact .more (cellText_ofInt value) (ih next)

/-- A list is read back from its written text. -/
theorem listOfJson_listToJson (cells : List Cell) :
    Cell.listOfJson (Cell.listToJson cells) = .ok cells := by
  rw [listOfJson_eq_ok_iff, toList_listToJson]
  exact ListText.mk blanks_nil (inside_separated _) blanks_nil

/-! ### Blanks taken out -/

section Filter
variable {text : List Char} {value : Int} {values : List Int}

theorem Blanks.filter_eq_nil (h : Blanks text) : text.filter (· ∉ blankChars) = [] := by
  rw [List.filter_eq_nil_iff]
  intro c hc
  simpa only [decide_not, Bool.not_eq_true', decide_eq_false_iff_not, not_not] using h c hc

theorem filter_numeral (h : Numeral text value) : text.filter (· ∉ blankChars) = text := by
  have digits {text : List Char} (h : Leading text) : text.filter (· ∉ blankChars) = text := by
    rw [List.filter_eq_self]
    exact fun c hc => decide_eq_true (not_blank_of_isDigit (h.digits c hc))
  cases h with
  | zero => rfl
  | positive h => exact digits h
  | negative h => rw [List.filter_cons_of_pos (by decide), digits h]

theorem filter_cellText (h : CellText text value) :
    text.filter (· ∉ blankChars) = (Decimal.ofInt value).toList := by
  obtain ⟨hbefore, hnumeral, hbehind⟩ := h
  rw [List.filter_append, List.filter_append, hbefore.filter_eq_nil, hbehind.filter_eq_nil,
    filter_numeral hnumeral, List.nil_append, List.append_nil, numeral_iff.mp hnumeral]

theorem filter_items (h : Items text values) :
    text.filter (· ∉ blankChars) = separated values := by
  induction h with
  | last h => rw [filter_cellText h, separated_singleton]
  | more h hrest ih =>
    rw [separated_cons hrest.ne_nil, List.filter_append, filter_cellText h,
      List.filter_cons_of_pos (by decide), ih]

theorem filter_inside (h : Inside text values) :
    text.filter (· ∉ blankChars) = separated values := by
  cases h with
  | none h => exact h.filter_eq_nil
  | items h => exact filter_items h

theorem filter_listText (h : ListText text values) :
    text.filter (· ∉ blankChars) = '[' :: (separated values ++ [']']) := by
  obtain ⟨hbefore, hinside, hbehind⟩ := h
  rw [List.filter_append, List.filter_cons_of_pos (by decide), List.filter_append,
    List.filter_cons_of_pos (by decide), hbefore.filter_eq_nil, hbehind.filter_eq_nil,
    filter_inside hinside, List.nil_append]

end Filter

/-- A text from which a list is read is the written text of the list, blanks apart. -/
theorem listToJson_of_listOfJson {text : String} {cells : List Cell}
    (h : Cell.listOfJson text = .ok cells) : Cell.listToJson cells = withoutBlanks text := by
  rw [← String.toList_inj, toList_listToJson, withoutBlanks, String.toList_ofList,
    filter_listText (listOfJson_eq_ok_iff.mp h)]

theorem listToJson_injective {cells others : List Cell}
    (h : Cell.listToJson cells = Cell.listToJson others) : cells = others := by
  have hread := listOfJson_listToJson cells
  rw [h, listOfJson_listToJson] at hread
  cases hread
  rfl

/-- Writing and reading a list undo each other, blanks apart: a list is read back from its
written text, a text from which it is read is the written text with blanks put in, and two
texts hold the same list exactly when they are equal up to blanks. -/
theorem list_round_trip :
    (∀ cells, Cell.listOfJson (Cell.listToJson cells) = .ok cells) ∧
    (∀ text cells, Cell.listOfJson text = .ok cells →
      Cell.listToJson cells = withoutBlanks text) ∧
    (∀ text other cells others, Cell.listOfJson text = .ok cells →
      Cell.listOfJson other = .ok others →
      (cells = others ↔ withoutBlanks text = withoutBlanks other)) := by
  refine ⟨listOfJson_listToJson, fun text cells => listToJson_of_listOfJson, ?_⟩
  intro text other cells others htext hother
  rw [← listToJson_of_listOfJson htext, ← listToJson_of_listOfJson hother]
  exact ⟨congrArg Cell.listToJson, listToJson_injective⟩

/-- The least cell is read from two texts that differ in every kind of blank. -/
theorem list_round_trip_blanks :
    Cell.listOfJson " [ 0\t,\n-2147483648\r]" = .ok [⟨0⟩, ⟨-0x80000000⟩] ∧
    Cell.listOfJson "[0,-2147483648]" = .ok [⟨0⟩, ⟨-0x80000000⟩] ∧
    Cell.listToJson [⟨0⟩, ⟨-0x80000000⟩] = withoutBlanks " [ 0\t,\n-2147483648\r]" ∧
    withoutBlanks " [ 0\t,\n-2147483648\r]" = withoutBlanks "[0,-2147483648]" := by
  have hspread : Cell.listOfJson " [ 0\t,\n-2147483648\r]" = .ok [⟨0⟩, ⟨-0x80000000⟩] := by
    decide +kernel
  have hwritten : Cell.listOfJson "[0,-2147483648]" = .ok [⟨0⟩, ⟨-0x80000000⟩] :=
    list_round_trip.1 [⟨0⟩, ⟨-0x80000000⟩]
  exact ⟨hspread, hwritten, list_round_trip.2.1 _ _ hspread,
    (list_round_trip.2.2 _ _ _ _ hspread hwritten).mp rfl⟩

end SlotSwap.Json
