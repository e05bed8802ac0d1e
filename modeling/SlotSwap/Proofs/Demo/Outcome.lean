import Mathlib.Data.Int.ModEq
import SlotSwap.Demo
import SlotSwap.Proofs.Value.Whole

/-! What the demonstration ends with.

The two values change places, both events show them, and a second run on the outcome undoes
the first (`demonstration`). The status is the residue modulo 256 of what the first cell
holds in the end, whatever its sign (`toNat_exitStatus_eq_emod`); wrapping around at 32 bits
leaves residues alone, so a sum or a product has the status that the statuses of its parts
give (`exitStatus_residue`). -/
namespace SlotSwap.Demo
open Log Text

section Status
variable {a b : Int32}

/-! ### The status of a word -/

/-- The mask is no more than the cut to a byte. -/
theorem exitStatus_eq (value : Int32) : exitStatus value = value.toUInt32.toUInt8 := by
  rw [exitStatus, UInt32.toUInt8_and]
  exact UInt8.and_neg_one

/-- The status of a number, negative or not, is its residue. -/
theorem toNat_exitStatus_eq_emod (value : Int32) :
    ((exitStatus value).toNat : Int) = value.toInt % 256 := by
  -- With its sign and without it the word is worth the same but for a multiple of 256.
  have hword := Number.Word.toNat_toUInt32 value
  rw [toNat_exitStatus]
  omega

/-- A remainder that kept the sign would be -1. -/
example : exitStatus (-1) = 255 := by decide

theorem exitStatus_eq_iff : exitStatus a = exitStatus b ↔ (256 : Int) ∣ a.toInt - b.toInt := by
  have ha := toNat_exitStatus_eq_emod a
  have hb := toNat_exitStatus_eq_emod b
  rw [← UInt8.toNat_inj]
  omega

theorem exitStatus_add (a b : Int32) : exitStatus (a + b) = exitStatus a + exitStatus b := by
  rw [exitStatus_eq, exitStatus_eq, exitStatus_eq, Int32.toUInt32_add, UInt32.toUInt8_add]

theorem exitStatus_mul (a b : Int32) : exitStatus (a * b) = exitStatus a * exitStatus b := by
  rw [exitStatus_eq, exitStatus_eq, exitStatus_eq, Int32.toUInt32_mul, UInt32.toUInt8_mul]

end Status

/-- **The status of a word is its residue modulo 256**: the mask of its two's complement is
the one number from 0 to 255 that is congruent to it. So two words have one status exactly
when 256 divides their difference, and the status of a sum or a product, wrapped around at
32 bits, is the sum or the product of the statuses modulo 256. -/
theorem exitStatus_residue :
    (∀ value : Int32,
      (exitStatus value).toNat = value.toUInt32.toNat &&& 0xff ∧
      (value.toUInt32.toNat : Int) = value.toInt % 0x100000000 ∧
      ∀ residue : Int, residue = (exitStatus value).toNat ↔
        0 ≤ residue ∧ residue ≤ 255 ∧ residue ≡ value.toInt [ZMOD 256]) ∧
    (∀ a b, exitStatus a = exitStatus b ↔ (256 : Int) ∣ a.toInt - b.toInt) ∧
    (∀ a b, (exitStatus (a + b)).toNat = ((exitStatus a).toNat + (exitStatus b).toNat) % 256 ∧
      (exitStatus (a * b)).toNat = (exitStatus a).toNat * (exitStatus b).toNat % 256) := by
  refine ⟨fun value => ⟨?_, Number.Word.toNat_toUInt32 value, fun residue => ?_⟩,
    fun a b => exitStatus_eq_iff, fun a b => ⟨?_, ?_⟩⟩
  · rw [toNat_exitStatus]
    exact (Nat.and_two_pow_sub_one_eq_mod _ 8).symm
  · rw [toNat_exitStatus_eq_emod, Int.ModEq]
    omega
  · rw [exitStatus_add]
    exact UInt8.toNat_add _ _
  · rw [exitStatus_mul]
    exact UInt8.toNat_mul _ _

/-! ### Two runs -/

/-- The options that begin where a run ended. -/
def Outcome.options (outcome : Outcome) : Options := ⟨outcome.first.get, outcome.second.get⟩

/-- The first value is not in the status. -/
theorem exitStatus_run (options : Options) :
    (run options).1.exitStatus = exitStatus options.second := rfl

/-- A second run puts the values back. -/
theorem options_run_run (options : Options) :
    (run (run options).1.options).1.options = options := rfl

/-- **The demonstration end to end**: the cells end with each other's values, one event shows
them before the exchange and one after it, and the status is the residue of the second
value. A run on the outcome restores the values and trades the fields of the events; and the
status does not depend on the first value. -/
theorem demonstration :
    (∀ options : Options,
      let m := Decimal.ofInt options.first.toInt
      let n := Decimal.ofInt options.second.toInt
      let before : Event := ⟨.debug, "before exchange", [("m", m), ("n", n)]⟩
      let after : Event := ⟨.info, "after exchange", [("m", n), ("n", m)]⟩
      let (outcome, log) := run options
      outcome.first.get = options.second ∧ outcome.second.get = options.first ∧
      log = [before, after] ∧
      (outcome.exitStatus.toNat : Int) = options.second.toInt % 256 ∧
      let (restored, again) := run outcome.options
      restored.options = options ∧
      again = [{before with fields := after.fields}, {after with fields := before.fields}]) ∧
    ∀ first other second : Int32,
      (run ⟨first, second⟩).1.exitStatus = (run ⟨other, second⟩).1.exitStatus := by
  constructor
  · intro options
    have hstatus := toNat_exitStatus_eq_emod options.second
    exact ⟨rfl, rfl, rfl, hstatus, options_run_run options, rfl⟩
  · intro first other second
    rw [exitStatus_run, exitStatus_run]

end SlotSwap.Demo
