import SlotSwap.Slots.Swap
import SlotSwap.Text.Record

/-! Cells.

A cell is a place that holds one signed word of 32 bits. It is read, overwritten or
exchanged with another cell; overwriting gives the previous value back.

Shown to a reader a cell is its bare number, whatever field it is asked to stand in.
As a record it is named, and its number is set in the field it is given. -/
namespace SlotSwap
open Text

structure Cell where
  value : Int32
deriving DecidableEq, Repr

namespace Cell

/-- A fresh cell holds zero. -/
instance : Inhabited Cell := ⟨⟨0⟩⟩

/-- A number stands for the cell that holds it. -/
instance : Coe Int32 Cell := ⟨Cell.mk⟩

def get (c : Cell) : Int32 := c.value

/-- Overwrites the value; the previous one comes first. -/
def set (c : Cell) (value : Int32) : Int32 × Cell := (c.value, {c with value := value})

/-- Exchanges the values of two cells. -/
def swapWith (c other : Cell) : Cell × Cell :=
  let values := Slots.swap (c.value, other.value)
  ({c with value := values.1}, {other with value := values.2})

/-- The bytes of the value that a hash is fed, the lowest first. -/
def bytes (c : Cell) : List UInt8 :=
  ([0, 8, 16, 24] : List UInt32).map fun shift => (c.value.toUInt32 >>> shift).toUInt8

/-! ### Cells as text -/

/-- The bare number; the field is not heeded. -/
def display (c : Cell) (_ : Field := {}) : String := Decimal.ofInt c.value.toInt

/-- The record that stands for a cell in a diagnostic text. -/
def record (c : Cell) (field : Field := {}) : Record := ⟨"Cell", [("value", field.set c.value)]⟩

/-- Two cells that show the same number are equal. -/
theorem display_injective {c d : Cell} {f g : Field} (h : c.display f = d.display g) : c = d := by
  have := Int32.toInt_inj.mp (Decimal.ofInt_injective h)
  cases c
  cases d
  exact congrArg Cell.mk this

end SlotSwap.Cell
