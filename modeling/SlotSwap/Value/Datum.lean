import SlotSwap.Cell
import SlotSwap.Number.Binary

/-! Values offered to a cell.

A `Datum` is what a source of values shows of one: a word of some width, a number, a
text, or that a sequence or a mapping begins. A cell accepts a whole number in the
range of 32 signed bits, whatever the width of its word up to 64 bits, and nothing
else; `Refusal` says why it did not. -/
namespace SlotSwap
open Number

inductive Datum where
  | null
  | boolean (value : Bool)
  | int8 (value : Int8)
  | int16 (value : Int16)
  | int32 (value : Int32)
  | int64 (value : Int64)
  | int128 (value : BitVec 128)
  | uint8 (value : UInt8)
  | uint16 (value : UInt16)
  | uint32 (value : UInt32)
  | uint64 (value : UInt64)
  | uint128 (value : BitVec 128)
  /-- A number of single precision, which is one of double precision too. -/
  | single (value : Binary)
  | double (value : Binary)
  | character (value : Char)
  | text (value : String)
  | bytes
  | sequence
  | mapping
deriving DecidableEq, Repr

/-- What a value is wanted for. -/
inductive Wanted where
  | cell
  | list
deriving DecidableEq, Repr

inductive Refusal where
  /-- A whole number that 32 signed bits cannot hold. -/
  | outOfRange (value : Int)
  /-- A value of another kind than the one wanted. -/
  | wrongKind (found : Datum) (wanted : Wanted)
deriving DecidableEq, Repr

namespace Cell

/-- A signed word of 64 bits, if it is in range. -/
def ofInt64 (value : Int64) : Except Refusal Cell :=
  if Int32.minValue.toInt64 ≤ value ∧ value ≤ Int32.maxValue.toInt64 then
    .ok ⟨value.toInt32⟩
  else .error (.outOfRange value.toInt)

/-- An unsigned word of 64 bits, if it is in range. -/
def ofUInt64 (value : UInt64) : Except Refusal Cell :=
  if value ≤ Int32.maxValue.toUInt32.toUInt64 then .ok ⟨value.toUInt32.toInt32⟩
  else .error (.outOfRange value.toNat)

/-- An unsigned word of 32 bits, if its highest bit is clear. -/
def ofUInt32 (value : UInt32) : Except Refusal Cell :=
  if value ≤ Int32.maxValue.toUInt32 then .ok ⟨value.toInt32⟩
  else .error (.outOfRange value.toNat)

def ofDatum : Datum → Except Refusal Cell
  | .int8 value => .ok ⟨value.toInt32⟩
  | .int16 value => .ok ⟨value.toInt32⟩
  | .int32 value => .ok ⟨value⟩
  | .int64 value => ofInt64 value
  | .uint8 value => .ok ⟨value.toUInt32.toInt32⟩
  | .uint16 value => .ok ⟨value.toUInt32.toInt32⟩
  | .uint32 value => ofUInt32 value
  | .uint64 value => ofUInt64 value
  | found => .error (.wrongKind found .cell)

end SlotSwap.Cell
