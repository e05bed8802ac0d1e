import Mathlib.Data.Nat.Digits.Defs
import Mathlib.Data.Set.List
import SlotSwap.Value.Datum

/-! Words, and the whole numbers that they are worth to a cell.

With a sign a word of 32 bits is worth one number and without it another, its two's
complement; they differ by a multiple of the number of words (`toNat_toUInt32`). The four
bytes of a word are the digits of the latter in base 256 (`ofDigits_bytes`).

What a cell makes of a whole number hangs on the number alone: `Cell.ofWhole` accepts
those that 32 signed bits hold and refuses any other by name. The words of up to 64 bits
come down to it, each as the number it is worth (`ofDatum_of_word?`). -/
namespace SlotSwap

/-! ### Words of 32 bits -/

namespace Number.Word

/-- The worth of a word without its sign is the residue of its worth. -/
theorem toNat_toUInt32 (word : Int32) :
    (word.toUInt32.toNat : Int) = word.toInt % 0x100000000 := by
  have hlimit := word.toUInt32.toNat_lt
  have hsign : word.toInt = if 2 * word.toUInt32.toNat < 0x100000000 then
      (word.toUInt32.toNat : Int) else word.toUInt32.toNat - 0x100000000 :=
    BitVec.toInt_eq_toNat_cond word.toBitVec
  split at hsign
  · omega
  · omega

theorem eq_of_toNat_toUInt32_eq {a b : Int32} (h : a.toUInt32.toNat = b.toUInt32.toNat) :
    a = b := by
  have hword := congrArg UInt32.toInt32 (UInt32.toNat_inj.mp h)
  rwa [Int32.toInt32_toUInt32, Int32.toInt32_toUInt32] at hword

/-- A word from its bytes, the lowest first. -/
theorem ofDigits_bytes (word : UInt32) :
    Nat.ofDigits 256
      (([0, 8, 16, 24] : List UInt32).map fun shift => (word >>> shift).toUInt8.toNat) =
      word.toNat := by
  have hlimit := word.toNat_lt
  simp only [List.map_cons, List.map_nil, Nat.ofDigits_cons, Nat.ofDigits_nil,
    UInt32.toNat_toUInt8, UInt32.toNat_shiftRight, UInt32.reduceToNat, Nat.shiftRight_eq_div_pow,
    Nat.reduceMod, Nat.reducePow]
  omega

end Number.Word

/-! ### What a cell makes of a whole number -/

/-- The whole number that a word of at most 64 bits is worth. -/
def Datum.word? : Datum → Option Int
  | .int8 value => some value.toInt
  | .int16 value => some value.toInt
  | .int32 value => some value.toInt
  | .int64 value => some value.toInt
  | .uint8 value => some value.toNat
  | .uint16 value => some value.toNat
  | .uint32 value => some value.toNat
  | .uint64 value => some value.toNat
  | _ => none

namespace Cell

/-- A number that 32 signed bits hold. -/
def Holds (value : Int) : Prop := -0x80000000 ≤ value ∧ value < 0x80000000

instance (value : Int) : Decidable (Holds value) :=
  inferInstanceAs (Decidable (_ ∧ _))

/-- A whole number, if it is in range. -/
def ofWhole (value : Int) : Except Refusal Cell :=
  if Holds value then .ok ⟨Int32.ofInt value⟩ else .error (.outOfRange value)

theorem holds_value (c : Cell) : Holds c.value.toInt := ⟨c.value.le_toInt, c.value.toInt_lt⟩

/-- A whole number is accepted as itself. -/
theorem ofWhole_eq_ok_iff {value : Int} {c : Cell} : ofWhole value = .ok c ↔ c.value.toInt = value := by
  constructor
  · intro h
    unfold ofWhole at h
    split at h
    · next hrange =>
      cases h
      exact Int32.toInt_ofInt_of_le hrange.1 hrange.2
    · cases h
  · rintro rfl
    rw [ofWhole, if_pos c.holds_value, Int32.ofInt_toInt]

/-- Every number in range is that of some cell. -/
theorem exists_value_iff {value : Int} : (∃ c : Cell, c.value.toInt = value) ↔ Holds value := by
  constructor
  · rintro ⟨c, rfl⟩
    exact c.holds_value
  · intro h
    exact ⟨⟨Int32.ofInt value⟩, Int32.toInt_ofInt_of_le h.1 h.2⟩

theorem exists_values_iff {values : List Int} :
    (∃ cells : List Cell, cells.map (fun c => c.value.toInt) = values) ↔
      ∀ value ∈ values, Holds value := by
  have hrange := Set.ext_iff.mp (Set.range_list_map fun c : Cell => c.value.toInt) values
  simpa only [Set.mem_range, Set.mem_ofPred_eq, exists_value_iff] using hrange

theorem ofInt64_eq_ofWhole (word : Int64) : ofInt64 word = ofWhole word.toInt := by
  have hrange : Int32.minValue.toInt64 ≤ word ∧ word ≤ Int32.maxValue.toInt64 ↔
      Holds word.toInt := by
    have hleast : Int32.minValue.toInt64.toInt = -0x80000000 := rfl
    have hlargest : Int32.maxValue.toInt64.toInt = 0x7fffffff := rfl
    rw [Int64.le_iff_toInt_le, Int64.le_iff_toInt_le, hleast, hlargest, Holds]
    omega
  simp only [ofInt64, ofWhole, hrange, Int32.ofInt_int64ToInt]

theorem ofUInt64_eq_ofWhole (word : UInt64) : ofUInt64 word = ofWhole word.toNat := by
  have hrange : word ≤ Int32.maxValue.toUInt32.toUInt64 ↔ Holds word.toNat := by
    have hlargest : Int32.maxValue.toUInt32.toUInt64.toNat = 0x7fffffff := rfl
    rw [UInt64.le_iff_toNat_le, hlargest, Holds]
    omega
  have hword : word.toUInt32.toInt32 = Int32.ofInt word.toNat := rfl
  simp only [ofUInt64, ofWhole, hrange, hword]

theorem toInt32_eq_ofInt (word : UInt32) : word.toInt32 = Int32.ofInt word.toNat := by
  have hword : (UInt32.ofNat word.toNat).toInt32 = Int32.ofInt word.toNat := rfl
  rwa [UInt32.ofNat_toNat] at hword

theorem ofUInt32_eq_ofWhole (word : UInt32) : ofUInt32 word = ofWhole word.toNat := by
  have hrange : word ≤ Int32.maxValue.toUInt32 ↔ Holds word.toNat := by
    have hlargest : Int32.maxValue.toUInt32.toNat = 0x7fffffff := rfl
    rw [UInt32.le_iff_toNat_le, hlargest, Holds]
    omega
  simp only [ofUInt32, ofWhole, hrange, toInt32_eq_ofInt]

/-- A word with room for a sign is accepted as it is. -/
theorem ofWhole_toNat {word : UInt32} (h : word.toNat < 0x80000000) :
    ofWhole word.toNat = .ok ⟨word.toInt32⟩ := by
  rw [ofWhole, if_pos ⟨by omega, by omega⟩, toInt32_eq_ofInt]

/-- A word is offered to the cell as the number that it is worth, whatever its width. -/
theorem ofDatum_of_word? {datum : Datum} {value : Int} (h : datum.word? = some value) :
    ofDatum datum = ofWhole value := by
  cases datum with
  | int8 word =>
    cases h
    exact (ofWhole_eq_ok_iff.mpr (Int8.toInt_toInt32 word)).symm
  | int16 word =>
    cases h
    exact (ofWhole_eq_ok_iff.mpr (Int16.toInt_toInt32 word)).symm
  | int32 word =>
    cases h
    exact (ofWhole_eq_ok_iff.mpr rfl).symm
  | int64 word =>
    cases h
    exact ofInt64_eq_ofWhole word
  | uint8 word =>
    cases h
    have hword : word.toUInt32.toNat = word.toNat := UInt8.toNat_toUInt32 word
    have hlimit : word.toNat < 256 := word.toNat_lt
    rw [← hword, ofWhole_toNat (by omega)]
    rfl
  | uint16 word =>
    cases h
    have hword : word.toUInt32.toNat = word.toNat := UInt16.toNat_toUInt32 word
    have hlimit : word.toNat < 65536 := word.toNat_lt
    rw [← hword, ofWhole_toNat (by omega)]
    rfl
  | uint32 word =>
    cases h
    exact ofUInt32_eq_ofWhole word
  | uint64 word =>
    cases h
    exact ofUInt64_eq_ofWhole word
  | _ => cases h

end Cell

theorem Datum.word?_bounds {datum : Datum} {value : Int} (h : datum.word? = some value) :
    -0x8000000000000000 ≤ value ∧ value < 0x10000000000000000 := by
  cases datum with
  | int8 word | int16 word | int32 word | int64 word =>
    cases h
    have hleast := word.le_toInt
    have hlimit := word.toInt_lt
    omega
  | uint8 word | uint16 word | uint32 word | uint64 word =>
    cases h
    have hlimit := word.toNat_lt
    omega
  | _ => cases h

end SlotSwap
