import SlotSwap.Cell
import SlotSwap.Json.Value

/-! Cells as JSON.

A cell is written as its bare number and a list of cells as the numbers between
brackets, without blanks. Reading takes blanks anywhere between the tokens; a cell
that is refused is refused before what follows it is looked at, and only when a
cell or a list is complete must the text be at its end. -/
namespace SlotSwap

namespace Json

/-- A cell, behind any blanks. -/
def readCell : Reader Cell := fun text => do
  let (datum, behind) ← readDatum (skipBlanks text)
  match Cell.ofDatum datum with
  | .ok cell => return (cell, behind)
  | .error why => throw (.refused why)

theorem readCell_length {text : List Char} {cell : Cell} {behind : List Char}
    (h : readCell text = .ok (cell, behind)) : behind.length < text.length := by
  simp only [readCell, bind, Except.bind] at h
  split at h
  · cases h
  · next read hread =>
    have hlength := Nat.lt_of_lt_of_le (readDatum_length hread) (length_skipBlanks_le text)
    split at h
    · cases h
      exact hlength
    · cases h

/-- What stands behind a cell of a list: a comma, when another cell is to come, or the
closing bracket. -/
def readSeparator : Reader Bool := fun text =>
  match skipBlanks text with
  | [] => .error (.unfinished .list)
  | ']' :: rest => .ok (false, rest)
  | ',' :: rest =>
    match skipBlanks rest with
    | [] => .error (.unfinished .value)
    | ']' :: _ => .error (.malformed .trailingComma)
    | _ => .ok (true, rest)
  | _ => .error (.malformed .noCommaOrEnd)

theorem readSeparator_length {text : List Char} {more : Bool} {behind : List Char}
    (h : readSeparator text = .ok (more, behind)) : behind.length < text.length := by
  have hskip := length_skipBlanks_le text
  unfold readSeparator at h
  split at h
  · cases h
  · next heq =>
    cases h
    rw [heq] at hskip
    exact hskip
  · next heq =>
    rw [heq] at hskip
    split at h
    · cases h
    · cases h
    · cases h
      exact hskip
  · cases h

/-- The cells of a list from one that must be there on, up to the closing bracket. -/
def readCells : Reader (List Cell) := fun text =>
  match _ : readCell text with
  | .error fault => .error fault
  | .ok (cell, behind) =>
    match _ : readSeparator behind with
    | .error fault => .error fault
    | .ok (false, rest) => .ok ([cell], rest)
    | .ok (true, rest) => do
      let (cells, rest) ← readCells rest
      return (cell :: cells, rest)
termination_by text => text.length
decreasing_by
  exact Nat.lt_trans (readSeparator_length (by assumption)) (readCell_length (by assumption))

/-- A list of cells, behind any blanks. -/
def readList : Reader (List Cell) := fun text =>
  match skipBlanks text with
  | '[' :: rest =>
    match skipBlanks rest with
    | [] => .error (.unfinished .list)
    | ']' :: rest => .ok ([], rest)
    | _ => readCells rest
  | text => do
    let (datum, _) ← readDatum text
    throw (.refused (.wrongKind datum .list))

/-- What a reader makes of a whole text, where only blanks may follow. -/
def entire (read : Reader α) (text : String) : Except Fault α := do
  let (value, behind) ← read text.toList
  match skipBlanks behind with
  | [] => return value
  | _ => throw (.malformed .trailingCharacters)

end Json

namespace Cell

/-- The cell that a JSON text holds. -/
def ofJson (text : String) : Except Json.Fault Cell := Json.entire Json.readCell text

/-- The list of cells that a JSON text holds. -/
def listOfJson (text : String) : Except Json.Fault (List Cell) := Json.entire Json.readList text

def toJson (c : Cell) : String := Text.Decimal.ofInt c.value.toInt

def listToJson (cells : List Cell) : String :=
  "[" ++ String.intercalate "," (cells.map toJson) ++ "]"

end Cell

end SlotSwap
