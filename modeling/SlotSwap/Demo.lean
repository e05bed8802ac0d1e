import SlotSwap.Cell

/-! The demonstration.

Two cells are filled, exchanged once and handed back, with an event before the
exchange and one after it. The status that a process ends with is the low byte of
what the first cell then holds. -/
namespace SlotSwap.Demo
open Log Text

/-- What the two cells hold at first. -/
structure Options where
  first : Int32 := 100
  second : Int32 := 200
deriving DecidableEq, Repr

/-- The two cells after the exchange. -/
structure Outcome where
  first : Cell
  second : Cell
deriving DecidableEq, Repr

/-- The two cells as fields of an event. -/
def fields (m n : Cell) : List (String × String) := [("m", m.display), ("n", n.display)]

def run (options : Options) : Outcome × List Event :=
  let m : Cell := options.first
  let n : Cell := options.second
  let (m', n') := m.swapWith n
  (⟨m', n'⟩,
    [⟨.debug, "before exchange", fields m n⟩, ⟨.info, "after exchange", fields m' n'⟩])

/-- The low byte of a word. -/
def exitStatus (value : Int32) : UInt8 := (value.toUInt32 &&& 0xff).toUInt8

def Outcome.exitStatus (outcome : Outcome) : UInt8 := Demo.exitStatus outcome.first.get

/-! ### Records -/

def Options.record (options : Options) : Record :=
  ⟨"DemoOptions", [("first", Decimal.ofInt options.first.toInt),
    ("second", Decimal.ofInt options.second.toInt)]⟩

/-- The record of an outcome on one line. -/
def Outcome.line (outcome : Outcome) : String :=
  Record.line ⟨"DemoOutcome",
    [("first", outcome.first.record.line), ("second", outcome.second.record.line)]⟩

/-- The record of an outcome as a block, the cells' blocks within it. -/
def Outcome.block (outcome : Outcome) : String :=
  Record.block ⟨"DemoOutcome",
    [("first", outcome.first.record.block), ("second", outcome.second.record.block)]⟩

/-- Masking a word leaves its residue modulo 256. -/
theorem toNat_exitStatus (value : Int32) :
    (exitStatus value).toNat = value.toUInt32.toNat % 256 := by
  have hmask : (value.toUInt32 &&& 0xff).toNat = value.toUInt32.toNat % 256 := by
    rw [UInt32.toNat_and]
    exact Nat.and_two_pow_sub_one_eq_mod _ 8
  rw [exitStatus, UInt32.toNat_toUInt8, hmask]
  exact Nat.mod_mod _ 256

end SlotSwap.Demo
