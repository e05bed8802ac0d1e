import Mathlib.Algebra.Order.Group.Multiset
import Mathlib.Data.List.Perm.Basic
import SlotSwap.Proofs.Slots.Permutation
import SlotSwap.Proofs.Store.Exchange

/-! Conservation of values.

A store is a place where values are kept: a new cell brings one in, overwriting a cell
brings one in and hands one back, and nothing else changes which values there are. Each
step keeps the balance (`step_conserves`), so every run does (`run_conserves`), with
the refused operations in it, as long as no text takes the place of all cells. -/
namespace SlotSwap.Store
open Slots

/-- The values that cells hold, in no order. -/
def values (cells : List Cell) : Multiset Int32 := (cells.map Cell.get : List Int32)

/-- The values that an operation brings in: that of a new cell and the one written to a cell
that is there. Whether the operation is answered is not asked. -/
def brought (cells : List Cell) : Operation → Multiset Int32
  | .new value => {value}
  | .convert value => {value}
  | .fresh => {0}
  | .parse text =>
    match Cell.ofJson text with
    | .ok cell => {cell.get}
    | .error _ => 0
  | .set index value => if index < cells.length then {value} else 0
  | .load _ | .save | .get _ | .display _ | .equal .. => 0
  | .swap .. | .swapWith .. | .cross .. | .swapAt .. | .swapInside .. => 0

/-- The values that an operation hands back in its answer. -/
def handedBack : Operation → Except Failure Reply → Multiset Int32
  | .set .., .ok (.value previous) => {previous}
  | _, _ => 0

/-- The values that the operations of a run bring in. -/
def broughtBy : List Cell → List Operation → Multiset Int32
  | _, [] => 0
  | cells, operation :: rest =>
    brought cells operation + broughtBy (step cells operation).cells rest

/-- The values that the operations of a run hand back. -/
def handedBackBy : List Cell → List Operation → Multiset Int32
  | _, [] => 0
  | cells, operation :: rest =>
    handedBack operation (step cells operation).answer +
      handedBackBy (step cells operation).cells rest

/-! ### The values of changed cells -/

/-- A cell put behind the others brings in its value and hands nothing back. -/
theorem values_append_cell (cells : List Cell) (cell : Cell) :
    values cells + {cell.get} = values (cells ++ [cell]) + 0 := by
  rw [add_zero, values, values, List.map_append]
  rfl

theorem values_of_perm {cells others : List Cell} (h : cells.Perm others) :
    values cells = values others :=
  Multiset.coe_eq_coe.mpr (h.map Cell.get)

theorem values_cons (cell : Cell) (cells : List Cell) :
    values (cell :: cells) = {cell.get} + values cells := rfl

/-- An overwritten cell gives up one value for another. -/
theorem values_set {cells : List Cell} {index : Nat} {old : Cell}
    (h : cells[index]? = some old) (new : Cell) :
    values cells + {new.get} = values (cells.set index new) + {old.get} := by
  obtain ⟨hindex, hold⟩ := List.getElem?_eq_some_iff.mp h
  have hbefore := values_of_perm (List.getElem_cons_eraseIdx_perm hindex)
  have hafter := values_of_perm (List.set_perm_cons_eraseIdx hindex new)
  rw [hold, values_cons] at hbefore
  rw [values_cons] at hafter
  rw [← hbefore, hafter]
  ac_rfl

/-! ### One operation -/

theorem values_swapAt (cells : List Cell) (i j : Nat) :
    values (Slots.swapAt cells i j).slots = values cells :=
  values_of_perm (swapAt_perm cells i j)

/-- **One operation keeps the balance**: what was there and what came in is what is there
afterwards and what was handed back. So a new cell, and a write to a cell that is there, is
never refused. -/
theorem step_conserves (cells : List Cell) (operation : Operation)
    (h : ∀ text, operation ≠ .load text) :
    values cells + brought cells operation =
      values (step cells operation).cells +
        handedBack operation (step cells operation).answer := by
  cases operation with
  | new value => exact values_append_cell cells ⟨value⟩
  | convert value => exact values_append_cell cells value
  | fresh => exact values_append_cell cells default
  | parse text =>
    cases hread : Cell.ofJson text with
    | ok cell =>
      simp only [step, hread, Step.replied, brought, handedBack]
      exact values_append_cell cells cell
    | error fault => simp only [step, hread, Step.failed, brought, handedBack]
  | load text => exact absurd rfl (h text)
  | save => rfl
  | get index =>
    simp only [step, withCell]
    split
    · rfl
    · rfl
  | set index value =>
    cases hcell : cells[index]? with
    | some cell =>
      have hindex : index < cells.length := (List.getElem?_eq_some_iff.mp hcell).1
      simp only [step, withCell, hcell, Step.replied, Cell.set, brought, if_pos hindex, handedBack]
      exact values_set hcell ⟨value⟩
    | none =>
      have hindex : ¬index < cells.length := Nat.not_lt.mpr (List.getElem?_eq_none_iff.mp hcell)
      simp only [step, withCell, hcell, Step.failed, brought, if_neg hindex, handedBack]
  | display index =>
    simp only [step, withCell]
    split
    · rfl
    · rfl
  | equal i j =>
    simp only [step, withCells]
    split
    · rfl
    · rfl
  | swap i j =>
    rw [cells_step_swap, values_swapAt]
    rfl
  | swapWith i j =>
    rw [cells_step_swapWith, values_swapAt]
    rfl
  | cross i j =>
    rw [cells_step_cross, values_swapAt]
    rfl
  | swapAt i j =>
    show values cells + 0 = values (Slots.swapAt cells i j).slots + 0
    rw [values_swapAt]
  | swapInside first last i j =>
    simp only [step]
    split
    · next hwindow =>
      show values cells + 0 = values (Window.swapAt ⟨first, last, hwindow.1⟩ cells i j).slots + 0
      rw [values_of_perm (Window.swapAt_perm _ cells i j)]
    · rfl

/-! ### Runs -/

/-- **No run loses, duplicates or makes up a value**: the values at the start and those
brought in are the values at the end and those handed back. Reading a list of cells in
place of all others is the one operation left out. -/
theorem run_conserves (cells : List Cell) (operations : List Operation)
    (h : ∀ text, .load text ∉ operations) :
    values cells + broughtBy cells operations =
      values (run cells operations) + handedBackBy cells operations := by
  induction operations generalizing cells with
  | nil => rfl
  | cons operation rest ih =>
    have hstep := step_conserves cells operation fun text heq => h text (by rw [heq]; simp)
    have hrest := ih (step cells operation).cells fun text hmem =>
      h text (List.mem_cons_of_mem _ hmem)
    calc values cells + broughtBy cells (operation :: rest)
      _ = values cells + (brought cells operation +
            broughtBy (step cells operation).cells rest) := rfl
      _ = values (step cells operation).cells +
            handedBack operation (step cells operation).answer +
            broughtBy (step cells operation).cells rest := by rw [← add_assoc, hstep]
      _ = values (run (step cells operation).cells rest) +
            handedBackBy (step cells operation).cells rest +
            handedBack operation (step cells operation).answer := by
          rw [add_right_comm, hrest]
      _ = values (run cells (operation :: rest)) +
            (handedBack operation (step cells operation).answer +
              handedBackBy (step cells operation).cells rest) := by
          rw [add_assoc, add_comm (handedBackBy _ _)]
          rfl

/-- A run in which two swaps are refused. -/
theorem run_conserves_mixed :
    let cells : List Cell := [⟨1⟩, ⟨2⟩, ⟨3⟩]
    let operations : List Operation :=
      [.new 5, .set 0 (-7), .swapAt 0 9, .swapAt 1 1, .swapInside 1 4 2 0, .set 3 8, .cross 2 2,
        .swapWith 0 3, .fresh]
    (∀ text, .load text ∉ operations) ∧
      values cells + broughtBy cells operations =
        values (run cells operations) + handedBackBy cells operations ∧
      values (run cells operations) = {8, 5, 3, -7, 0} ∧
      broughtBy cells operations = {5, -7, 8, 0} ∧ handedBackBy cells operations = {1, 2} :=
  ⟨by simp, run_conserves _ _ (by simp), by decide, by decide, by decide⟩

end SlotSwap.Store
