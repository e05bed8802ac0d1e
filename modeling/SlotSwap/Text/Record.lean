import SlotSwap.Text.Decimal
import SlotSwap.Text.Hexadecimal

/-! Records and the numbers set in them.

A `Field` is what a caller asks of the text of a value: how wide it is to stand, on
which side of the field and beside what, with or without a plus sign, in which
digits. A sign always comes first, before the mark of the base and before zeros
that fill the field; a number that needs more room than the field has takes it
(`length_chars`).

A record is a name and named values whose texts are already known. It is laid
out on one line, or as a block with one field to a line, where the text of a
value that itself spans lines is moved in with its field. -/
namespace SlotSwap.Text

/-! ### Numbers in a field -/

/-- Which digits a word of 32 bits is written in. The hexadecimal forms show its two's
complement. -/
inductive Digits where
  | decimal
  | hexadecimal
  /-- Capital letters behind the mark `0x`. -/
  | markedCapitals
deriving DecidableEq, Repr

/-- Where in a field a text stands. -/
inductive Side where
  | left
  | centre
  | right
deriving DecidableEq, Repr

structure Field where
  width : Nat := 0
  side : Side := .right
  /-- What stands in the field beside the text. -/
  fill : Char := ' '
  plus : Bool := false
  /-- Zeros between the sign and the digits fill the field. -/
  zeros : Bool := false
  /-- How many decimal places or characters are wanted; whole numbers have neither. -/
  precision : Option Nat := none
  digits : Digits := .decimal
deriving DecidableEq, Repr

namespace Field

/-- The sign and the mark in front of the digits. -/
def sign (f : Field) (value : Int32) : List Char :=
  match f.digits with
  | .decimal => if value.toInt < 0 then ['-'] else if f.plus then ['+'] else []
  | .hexadecimal => if f.plus then ['+'] else []
  | .markedCapitals => (if f.plus then ['+'] else []) ++ ['0', 'x']

/-- The digits alone. -/
def magnitude (f : Field) (value : Int32) : List Char :=
  match f.digits with
  | .decimal => Decimal.digits value.toInt.natAbs
  | .hexadecimal => Hexadecimal.digits value.toUInt32.toNat
  | .markedCapitals => Hexadecimal.capitals value.toUInt32.toNat

/-- How much of the free room lies in front of the text. -/
def lead (f : Field) (room : Nat) : Nat :=
  match f.side with
  | .left => 0
  | .centre => room / 2
  | .right => room

theorem lead_le (f : Field) (room : Nat) : f.lead room ≤ room := by
  unfold lead
  split <;> omega

def chars (f : Field) (value : Int32) : List Char :=
  let sign := f.sign value
  let digits := f.magnitude value
  let room := f.width - (sign.length + digits.length)
  if f.zeros then sign ++ List.replicate room '0' ++ digits
  else
    List.replicate (f.lead room) f.fill ++ (sign ++ digits)
      ++ List.replicate (room - f.lead room) f.fill

/-- The number as it stands in its field. -/
def set (f : Field) (value : Int32) : String := String.ofList (f.chars value)

/-- A field is filled, or overfilled by a number that does not fit. -/
theorem length_chars (f : Field) (value : Int32) :
    (f.chars value).length = max f.width ((f.sign value).length + (f.magnitude value).length) := by
  have := f.lead_le (f.width - ((f.sign value).length + (f.magnitude value).length))
  unfold chars
  simp only
  split <;>
  · simp only [List.length_append, List.length_replicate]
    omega

end Field

/-! ### Records -/

structure Record where
  name : String
  fields : List (String × String)
deriving DecidableEq, Repr

namespace Record

/-- The margin of a field in a block. -/
def margin : List Char := [' ', ' ', ' ', ' ']

/-- A text moved in by one margin: its first line stands where it is put, and each
line after it begins with the margin. -/
def indent (text : String) : String :=
  String.ofList (text.toList.flatMap fun c => if c = '\n' then c :: margin else [c])

/-- `Name \x7b field: value, field: value \x7d`. -/
def line (r : Record) : String :=
  r.name ++ " \x7b "
    ++ String.intercalate ", " (r.fields.map fun (name, text) => name ++ ": " ++ text)
    ++ " \x7d"

/-- The record with one field to a line, each ended by a comma. -/
def block (r : Record) : String :=
  r.name ++ " \x7b\n"
    ++ String.join (r.fields.map fun (name, text) =>
      String.ofList margin ++ name ++ ": " ++ indent text ++ ",\n")
    ++ "\x7d"

end Record

end SlotSwap.Text
