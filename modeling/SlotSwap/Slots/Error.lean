import SlotSwap.Text.Quoted
import SlotSwap.Text.Record

/-! Why a swap by position is refused.

A position may lie past the last slot, or both positions may name one slot. Each
cause has a message for people and a record text, on one line or on several. -/
namespace SlotSwap.Slots
open Text

inductive Error where
  /-- Both positions name the slot described by `location`. -/
  | aliased (location : String)
  /-- `index` is past the last of `length` slots. -/
  | outOfBounds (index length : Nat)
deriving DecidableEq, Repr

namespace Error

/-- The message for people; the field it is asked to stand in is not heeded. -/
def message (e : Error) (_ : Field := {}) : String :=
  match e with
  | aliased location => "aliased cells: both handles refer to " ++ location
  | outOfBounds index length =>
    "index out of bounds: " ++ Decimal.ofNat index ++ " >= " ++ Decimal.ofNat length

/-- The record that stands for an error in a diagnostic text. -/
def record : Error → Record
  | aliased location => ⟨"Aliased", [("location", Quoted.quote location)]⟩
  | outOfBounds index length =>
    ⟨"OutOfBounds", [("index", Decimal.ofNat index), ("len", Decimal.ofNat length)]⟩

def isAliased : Error → Bool
  | aliased _ => true
  | outOfBounds .. => false

def isOutOfBounds : Error → Bool
  | aliased _ => false
  | outOfBounds .. => true

/-- The error behind an error: a refused swap has none. -/
def cause (_ : Error) : Option Error := none

/-- An error has exactly one of the two causes. -/
theorem isOutOfBounds_eq_not_isAliased (e : Error) : e.isOutOfBounds = !e.isAliased := by
  cases e <;> rfl

end SlotSwap.Slots.Error
