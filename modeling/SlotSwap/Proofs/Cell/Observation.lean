import Mathlib.Data.List.TFAE
import SlotSwap.Proofs.Json.RoundTrip
import SlotSwap.Proofs.Text.Field
import SlotSwap.Proofs.Text.Record

/-! What is seen of a cell.

A cell is seen as a number, as the bytes that a hash is fed, as a bare numeral, and as a
record in a field of any width, in any of the forms that a diagnostic text has. None of
them shows two cells alike that hold different numbers (`observations_faithful`). -/
namespace SlotSwap.Cell
open Text

section
variable {a b : Cell} {f : Field}

theorem value_eq_iff : a.value = b.value ↔ a = b := by
  constructor
  · intro h
    cases a
    cases b
    exact congrArg Cell.mk h
  · exact congrArg value

/-! ### Bytes -/

/-- The bytes are the digits, in base 256, of the value without its sign. -/
theorem ofDigits_bytes (c : Cell) :
    Nat.ofDigits 256 (c.bytes.map UInt8.toNat) = c.value.toUInt32.toNat := by
  rw [bytes, List.map_map]
  exact Number.Word.ofDigits_bytes c.value.toUInt32

theorem bytes_eq_iff : a.bytes = b.bytes ↔ a = b := by
  constructor
  · intro h
    have hword := congrArg (fun bytes => Nat.ofDigits 256 (bytes.map UInt8.toNat)) h
    simp only [ofDigits_bytes] at hword
    exact value_eq_iff.mp (Number.Word.eq_of_toNat_toUInt32_eq hword)
  · exact congrArg bytes

/-! ### Numerals -/

theorem toJson_eq_iff : a.toJson = b.toJson ↔ a = b :=
  ⟨display_injective (f := {}) (g := {}), congrArg toJson⟩

theorem display_eq_iff : a.display f = b.display f ↔ a = b :=
  ⟨display_injective, congrArg (display · f)⟩

/-- The bare number is read back, whatever field it was asked to stand in. -/
theorem ofJson_display (c : Cell) (f : Field) : Cell.ofJson (c.display f) = .ok c :=
  Json.ofJson_eq_ok_iff.mpr (Json.cellText_ofInt c.value.toInt)

/-! ### Records -/

theorem names_record (c : Cell) (f : Field) : (c.record f).fields.map Prod.fst = ["value"] := rfl

theorem alike_record (a b : Cell) (f : Field) : (a.record f).Alike (b.record f) :=
  -- By way of the names: compared with each other, the records would be unfolded down to
  -- the texts of their fields.
  ⟨rfl, (names_record a f).trans (names_record b f).symm⟩

theorem separable_record (c : Cell) (f : Field) : (c.record f).Separable :=
  fun _ h => absurd h List.not_mem_nil

theorem record_injective (hf : f.Legible) (h : a.record f = b.record f) : a = b := by
  have hfields := congrArg Record.fields h
  have htext := (Prod.mk.inj (List.cons.inj hfields).1).2
  exact value_eq_iff.mp (Field.set_injective hf htext)

theorem line_record_eq_iff (hf : f.Legible) :
    (a.record f).line = (b.record f).line ↔ a = b := by
  constructor
  · intro h
    exact record_injective hf (Record.line_injective (alike_record a b f) (separable_record a f)
      (separable_record b f) h)
  · exact congrArg fun c => (record c f).line

theorem block_record_eq_iff (hf : f.Legible) :
    (a.record f).block = (b.record f).block ↔ a = b := by
  constructor
  · intro h
    exact record_injective hf (Record.block_injective (alike_record a b f) (separable_record a f)
      (separable_record b f) h)
  · exact congrArg fun c => (record c f).block

end

/-- **Every observation of a cell tells the cell**: its number, the bytes that a hash is fed,
its text as JSON and for a reader, and its record on a line or as a block, in a field of any
width, with blanks on either side or zeros, a plus sign, or hexadecimal digits. The bytes
are the two's complement of the value, the lowest first; the text for a reader heeds no
field, and the cell is read back from it. -/
theorem observations_faithful (a b : Cell) (width : Nat) (flags : Field) :
    List.TFAE [
      a = b,
      a.get = b.get,
      a.bytes = b.bytes,
      a.toJson = b.toJson,
      a.display flags = b.display flags,
      a.record.line = b.record.line,
      a.record.block = b.record.block,
      (a.record { width }).line = (b.record { width }).line,
      (a.record { width, side := .left, plus := true }).line =
        (b.record { width, side := .left, plus := true }).line,
      (a.record { width, zeros := true }).line = (b.record { width, zeros := true }).line,
      (a.record { digits := .hexadecimal }).line = (b.record { digits := .hexadecimal }).line,
      (a.record { digits := .markedCapitals }).block =
        (b.record { digits := .markedCapitals }).block] ∧
    a.bytes.length = 4 ∧
    ((Nat.ofDigits 256 (a.bytes.map UInt8.toNat) : Nat) : Int) = a.value.toInt % 0x100000000 ∧
    a.display flags = a.toJson ∧
    Cell.ofJson (a.display flags) = .ok a := by
  have hblank {f : Field} (h : f.fill = ' ') : f.Legible := Field.legible_of_blank h
  refine ⟨List.tfae_of_forall (a = b) _ ?_, rfl, ?_, rfl, ofJson_display a flags⟩
  · simp only [List.forall_mem_cons, List.not_mem_nil, IsEmpty.forall_iff, implies_true, and_true,
      true_and]
    exact ⟨value_eq_iff, bytes_eq_iff, toJson_eq_iff, display_eq_iff,
      line_record_eq_iff (hblank rfl), block_record_eq_iff (hblank rfl),
      line_record_eq_iff (hblank rfl), line_record_eq_iff (hblank rfl),
      line_record_eq_iff (hblank rfl), line_record_eq_iff (hblank rfl),
      block_record_eq_iff (hblank rfl)⟩
  · rw [ofDigits_bytes]
    exact Number.Word.toNat_toUInt32 a.value

end SlotSwap.Cell
