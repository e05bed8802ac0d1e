import SlotSwap.Number.Layout
import SlotSwap.Text.Quoted
import SlotSwap.Value.Datum

/-! Why a value was refused, in words.

Whole numbers of up to 64 bits are named by their worth alone, wider ones together
with their type. What is nothing is called by the source of the value, which also
lays out floating-point numbers: that is a `Wording`. -/
namespace SlotSwap
open Number Text

structure Wording where
  /-- What a value that is nothing is called. -/
  null : String
  layout : Layout

namespace Wording

/-- Values of a program: an exact tie goes up, and no number has an exponent. -/
def plain : Wording := ⟨"unit value", ⟨.upward, none⟩⟩

/-- Values of a JSON text: an exact tie goes to the even digit, and a number below `1e-5` or
from `1e16` on has an exponent. -/
def json : Wording := ⟨"null", ⟨.toEven, some (-5, 15)⟩⟩

def wholeNumber (value : Int) : String := "integer `" ++ Decimal.ofInt value ++ "`"

def describe (w : Wording) : Datum → String
  | .null => w.null
  | .boolean value => "boolean `" ++ (if value then "true" else "false") ++ "`"
  | .int8 value => wholeNumber value.toInt
  | .int16 value => wholeNumber value.toInt
  | .int32 value => wholeNumber value.toInt
  | .int64 value => wholeNumber value.toInt
  | .int128 value => wholeNumber value.toInt ++ " as i128"
  | .uint8 value => wholeNumber value.toNat
  | .uint16 value => wholeNumber value.toNat
  | .uint32 value => wholeNumber value.toNat
  | .uint64 value => wholeNumber value.toNat
  | .uint128 value => wholeNumber value.toNat ++ " as u128"
  | .single value => "floating point `" ++ w.layout.render value ++ "`"
  | .double value => "floating point `" ++ w.layout.render value ++ "`"
  | .character value => "string " ++ Quoted.quote (String.singleton value)
  | .text value => "string " ++ Quoted.quote value
  | .bytes => "byte array"
  | .sequence => "sequence"
  | .mapping => "map"

end Wording

def Wanted.name : Wanted → String
  | cell => "i32"
  | list => "a sequence"

/-- The message of a refusal, in the words of the value's source. -/
def Refusal.message (w : Wording) : Refusal → String
  | outOfRange value =>
    "invalid value: " ++ Wording.wholeNumber value ++ ", expected " ++ Wanted.cell.name
  | wrongKind found wanted =>
    "invalid type: " ++ w.describe found ++ ", expected " ++ wanted.name

namespace Refusal

/-- A whole number out of range is named alike by every source. -/
theorem message_outOfRange (w : Wording) (value : Int) :
    (outOfRange value).message w =
      "invalid value: integer `" ++ Decimal.ofInt value ++ "`, expected i32" := by
  have hfront : "invalid value: integer `" = "invalid value: " ++ "integer `" := rfl
  have hback : "`, expected i32" = "`" ++ (", expected " ++ "i32") := rfl
  rw [hfront, hback]
  show "invalid value: " ++ ("integer `" ++ Decimal.ofInt value ++ "`") ++ ", expected " ++
    "i32" = _
  simp only [String.append_assoc]

theorem message_double (w : Wording) (number : Binary) :
    (wrongKind (.double number) .cell).message w =
      "invalid type: floating point `" ++ w.layout.render number ++ "`, expected i32" := by
  have hfront : "invalid type: floating point `" = "invalid type: " ++ "floating point `" := rfl
  have hback : "`, expected i32" = "`" ++ (", expected " ++ "i32") := rfl
  rw [hfront, hback]
  show "invalid type: " ++ ("floating point `" ++ w.layout.render number ++ "`") ++ ", expected " ++
    "i32" = _
  simp only [String.append_assoc]

end Refusal

end SlotSwap
