import Mathlib.Data.List.TFAE
import SlotSwap.Proofs.Text.Numeral
import SlotSwap.Proofs.Text.Record
import SlotSwap.Slots.Error

/-! What the text of an error tells.

The two causes begin their messages with different words, the numbers of a message are
parted by a blank, and those of a record by a comma, and the description of a slot stands
last in a message and between quotes in a record. So no two errors, whatever slots they
describe, share a text (`identified_by_text`). -/
namespace SlotSwap.Slots.Error
open Text

section
variable {a b : Error} {location other : String} {index length index' length' : Nat}

/-! ### Messages -/

theorem message_aliased (location : String) : (aliased location).message =
    "aliased cells: both handles refer to " ++ location := rfl

theorem message_outOfBounds (index length : Nat) : (outOfBounds index length).message =
    "index out of bounds: " ++ Decimal.ofNat index ++ " >= " ++ Decimal.ofNat length := rfl

theorem toList_message_aliased (location : String) : (aliased location).message.toList =
    "aliased cells: both handles refer to ".toList ++ location.toList := by
  rw [message_aliased, String.toList_append]

theorem toList_message_outOfBounds (index length : Nat) :
    (outOfBounds index length).message.toList = "index out of bounds: ".toList ++
      (Decimal.digits index ++ ' ' :: (">= ".toList ++ Decimal.digits length)) := by
  rw [message_outOfBounds, String.toList_append, String.toList_append, String.toList_append,
    Decimal.toList_ofNat, Decimal.toList_ofNat, List.append_assoc, List.append_assoc]
  rfl

theorem message_aliased_inj (h : (aliased location).message = (aliased other).message) :
    location = other := by
  have hchars := congrArg String.toList h
  rw [toList_message_aliased, toList_message_aliased] at hchars
  exact String.toList_inj.mp (List.append_cancel_left hchars)

theorem message_outOfBounds_inj
    (h : (outOfBounds index length).message = (outOfBounds index' length').message) :
    index = index' ∧ length = length' := by
  have hchars := congrArg String.toList h
  rw [toList_message_outOfBounds, toList_message_outOfBounds] at hchars
  obtain ⟨hindex, hrest⟩ := append_cons_inj (Decimal.not_mem_digits rfl index)
    (Decimal.not_mem_digits rfl index') (List.append_cancel_left hchars)
  exact ⟨Decimal.digits_injective hindex,
    Decimal.digits_injective (List.append_cancel_left hrest)⟩

theorem message_aliased_ne_outOfBounds :
    (aliased location).message ≠ (outOfBounds index length).message := by
  intro h
  have hchars := congrArg String.toList h
  rw [toList_message_aliased, toList_message_outOfBounds] at hchars
  simp at hchars

theorem message_injective (h : a.message = b.message) : a = b := by
  cases a with
  | aliased location =>
    cases b with
    | aliased other => rw [message_aliased_inj h]
    | outOfBounds index length => exact absurd h message_aliased_ne_outOfBounds
  | outOfBounds index length =>
    cases b with
    | aliased location => exact absurd h.symm message_aliased_ne_outOfBounds
    | outOfBounds index' length' =>
      obtain ⟨hindex, hlength⟩ := message_outOfBounds_inj h
      rw [hindex, hlength]

/-! ### Records -/

theorem blank_not_mem_name (e : Error) : ' ' ∉ e.record.name.toList := by
  cases e with
  | aliased location => simp [record]
  | outOfBounds index length => simp [record]

theorem separable_record (e : Error) : e.record.Separable := by
  cases e with
  | aliased location => exact fun _ h => absurd h List.not_mem_nil
  | outOfBounds index length =>
    intro field h
    rw [List.mem_singleton.mp h]
    rw [Decimal.toList_ofNat]
    exact ⟨by simp, Decimal.not_mem_digits rfl index⟩

theorem alike_of_name_eq (h : a.record.name = b.record.name) : a.record.Alike b.record := by
  refine ⟨h, ?_⟩
  cases a with
  | aliased location =>
    cases b with
    | aliased other => simp [record]
    | outOfBounds index length => simp [record] at h
  | outOfBounds index length =>
    cases b with
    | aliased location => simp [record] at h
    | outOfBounds index' length' => simp [record]

theorem record_injective (h : a.record = b.record) : a = b := by
  cases a with
  | aliased location =>
    cases b with
    | aliased other =>
      simp only [record, Record.mk.injEq, List.cons.injEq, Prod.mk.injEq, true_and, and_true] at h
      rw [Quoted.quote_injective h]
    | outOfBounds index length => simp [record] at h
  | outOfBounds index length =>
    cases b with
    | aliased location => simp [record] at h
    | outOfBounds index' length' =>
      simp only [record, Record.mk.injEq, List.cons.injEq, Prod.mk.injEq, true_and, and_true] at h
      rw [Decimal.ofNat_injective h.1, Decimal.ofNat_injective h.2]

theorem line_record_injective (h : a.record.line = b.record.line) : a = b := by
  have hname := Record.name_eq_of_line_eq (blank_not_mem_name a) (blank_not_mem_name b) h
  exact record_injective
    (Record.line_injective (alike_of_name_eq hname) (separable_record a) (separable_record b) h)

theorem block_record_injective (h : a.record.block = b.record.block) : a = b := by
  have hname := Record.name_eq_of_block_eq (blank_not_mem_name a) (blank_not_mem_name b) h
  exact record_injective
    (Record.block_injective (alike_of_name_eq hname) (separable_record a) (separable_record b) h)

end

/-- **An error is identified by its text**, be it the message, the record on one line or the
record as a block; and the message heeds no field that it is asked to stand in. -/
theorem identified_by_text (a b : Error) :
    List.TFAE [
      a = b,
      a.message = b.message,
      a.record.line = b.record.line,
      a.record.block = b.record.block] ∧
    ∀ field : Field, a.message field = a.message := by
  refine ⟨List.tfae_of_forall (a = b) _ ?_, fun _ => rfl⟩
  simp only [List.forall_mem_cons, List.not_mem_nil, IsEmpty.forall_iff, implies_true, and_true,
    true_and]
  exact ⟨⟨message_injective, congrArg message⟩,
    ⟨line_record_injective, congrArg fun e => (record e).line⟩,
    ⟨block_record_injective, congrArg fun e => (record e).block⟩⟩

end SlotSwap.Slots.Error
