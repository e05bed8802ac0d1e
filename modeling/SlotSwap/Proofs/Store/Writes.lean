import SlotSwap.Proofs.Store.Exchange

/-! Writes travel with their slot.

An exchange of two cells carries what was written to one of them to the other's slot. So
the writes of a run can wait: all exchanges are made first, and each write then goes to
the slot to which the exchanges that came after it have carried its own. `carried`
follows a slot through a run, `writesLast` is the run with its writes put off, and
`writes_deferrable` says that it ends with the same cells and that every write still
hands back the value it did. -/
namespace SlotSwap

/-! ### One exchange -/

namespace Slots

/-- A write in front of an exchange may be made behind it, in the slot that the written
value is carried to. -/
theorem slots_swapAt_set {slots : List α} {i j : Nat} (h : Apart slots.length (i, j)) (k : Nat)
    (x : α) :
    (swapAt (slots.set k x) i j).slots = (swapAt slots i j).slots.set (Equiv.swap i j k) x := by
  have hwritten : Apart (slots.set k x).length (i, j) := by rwa [List.length_set]
  refine List.ext_getElem? fun slot => ?_
  rw [getElem?_swapAt_swap hwritten, List.getElem?_set', List.getElem?_set',
    getElem?_swapAt_swap h]
  by_cases hslot : k = Equiv.swap i j slot
  · rw [if_pos hslot, if_pos (Equiv.swap_apply_eq_iff.mpr hslot)]
  · rw [if_neg hslot, if_neg fun hcarried => hslot (Equiv.swap_apply_eq_iff.mp hcarried)]

end Slots

namespace Store
open Slots

/-! ### Runs of writes and exchanges -/

/-- The slot to which an operation carries what a slot holds. -/
def carry : Operation → Nat → Nat
  | .swap i j => Equiv.swap i j
  | .swapWith i j => Equiv.swap i j
  | .cross i j => Equiv.swap i j
  | .swapAt i j => Equiv.swap i j
  | .swapInside first _ i j => Equiv.swap (first + i) (first + j)
  | _ => id

/-- The slot to which the operations of a run carry what a slot holds at the start. -/
def carried (operations : List Operation) (slot : Nat) : Nat :=
  operations.foldl (fun slot operation => carry operation slot) slot

def isWrite : Operation → Bool
  | .set .. => true
  | _ => false

/-- The operations of a run without its writes. -/
def exchangesOf (operations : List Operation) : List Operation :=
  operations.filter fun operation => !isWrite operation

/-- The writes of a run, each at the slot to which the operations behind it carry its own. -/
def carriedWrites : List Operation → List Operation
  | [] => []
  | .set index value :: rest => .set (carried rest index) value :: carriedWrites rest
  | _ :: rest => carriedWrites rest

/-- The run in which every write waits until all exchanges are made. -/
def writesLast (operations : List Operation) : List Operation :=
  exchangesOf operations ++ carriedWrites operations

/-- The answers to the writes of a run. -/
def overwritten (cells : List Cell) : List Operation → List (Except Failure Reply)
  | [] => []
  | operation :: rest =>
    (if isWrite operation then [(step cells operation).answer] else [])
      ++ overwritten (step cells operation).cells rest

/-- What may be done to a store of `length` cells: overwrite a cell that is there, or
exchange two different ones. -/
inductive Edits (length : Nat) : Operation → Prop where
  | write (index : Fin length) (value : Int32) : Edits length (.set index value)
  | exchange {call : Call} {operation : Operation} (h : Exchanges length call operation)
      (hapart : Apart length call) : Edits length operation

theorem carriedWrites_cons {operation : Operation} (h : isWrite operation = false)
    (rest : List Operation) : carriedWrites (operation :: rest) = carriedWrites rest := by
  cases operation with
  | set index value => cases h
  | _ => rfl

/-- An exchange in front of a run stays in front. -/
theorem writesLast_cons {operation : Operation} (h : isWrite operation = false)
    (rest : List Operation) : writesLast (operation :: rest) = operation :: writesLast rest := by
  rw [writesLast, exchangesOf, List.filter_cons_of_pos (by rw [h]; rfl), carriedWrites_cons h]
  rfl

theorem overwritten_append (cells : List Cell) (a b : List Operation) :
    overwritten cells (a ++ b) = overwritten cells a ++ overwritten (run cells a) b := by
  induction a generalizing cells with
  | nil => rfl
  | cons operation rest ih =>
    rw [List.cons_append, overwritten, ih, overwritten, run, List.append_assoc]

/-- Exchanges hand no value back. -/
theorem overwritten_exchangesOf (cells : List Cell) (operations : List Operation) :
    overwritten cells (exchangesOf operations) = [] := by
  induction operations generalizing cells with
  | nil => rfl
  | cons operation rest ih =>
    by_cases hwrite : isWrite operation
    · rw [exchangesOf, List.filter_cons_of_neg (by simpa using hwrite)]
      exact ih cells
    · rw [exchangesOf, List.filter_cons_of_pos (by simpa using hwrite), overwritten,
        if_neg hwrite]
      exact ih _

/-! ### One operation -/

section Exchange
variable {cells : List Cell} {call : Call} {operation : Operation}

theorem carry_of_exchanges {length : Nat} (h : Exchanges length call operation) (slot : Nat) :
    carry operation slot = Equiv.swap call.1 call.2 slot := by
  induction h with
  | turned h ih => rw [ih, Equiv.swap_comm]
  | _ => rfl

theorem not_isWrite_of_exchanges {length : Nat} (h : Exchanges length call operation) :
    isWrite operation = false := by
  induction h with
  | turned h ih => exact ih
  | _ => rfl

theorem carry_lt {length : Nat} (h : Exchanges length call operation)
    (hapart : Apart length call) {slot : Nat} (hslot : slot < length) :
    carry operation slot < length := by
  rw [carry_of_exchanges h, Equiv.swap_apply_def]
  split
  · exact hapart.2.1
  · split
    · exact hapart.1
    · exact hslot

/-- A cell that was overwritten before an exchange may be overwritten after it, in the
slot that it is carried to. -/
theorem cells_step_set (h : Exchanges cells.length call operation)
    (hapart : Apart cells.length call) (slot : Nat) (cell : Cell) :
    (step (cells.set slot cell) operation).cells =
      (step cells operation).cells.set (carry operation slot) cell := by
  have hlength : (cells.set slot cell).length = cells.length := List.length_set
  obtain ⟨-, hcells⟩ := step_of_exchanges h hapart
  have hwritten : (step (cells.set slot cell) operation).cells =
      (Slots.swapAt (cells.set slot cell) call.1 call.2).slots :=
    (step_of_exchanges (by rwa [hlength]) (by rwa [hlength])).2
  rw [hwritten, hcells, slots_swapAt_set hapart, carry_of_exchanges h]

/-- An exchange carries every cell to its new slot. -/
theorem getElem?_step_carry (h : Exchanges cells.length call operation)
    (hapart : Apart cells.length call) (slot : Nat) :
    (step cells operation).cells[carry operation slot]? = cells[slot]? := by
  obtain ⟨-, hcells⟩ := step_of_exchanges h hapart
  rw [hcells, getElem?_swapAt_swap hapart, carry_of_exchanges h, Equiv.swap_apply_self]

end Exchange

/-- A write to a cell that is there hands its value back. -/
theorem step_set {cells : List Cell} {index : Nat} {cell : Cell} (h : cells[index]? = some cell)
    (value : Int32) :
    step cells (.set index value) = .replied (.value cell.value) (cells.set index ⟨value⟩) := by
  simp only [step, withCell, h, Cell.set]

theorem run_cons_set {cells : List Cell} {index : Nat} {cell : Cell}
    (h : cells[index]? = some cell) (value : Int32) (rest : List Operation) :
    run cells (.set index value :: rest) = run (cells.set index ⟨value⟩) rest := by
  rw [run, step_set h]
  rfl

theorem overwritten_cons_set {cells : List Cell} {index : Nat} {cell : Cell}
    (h : cells[index]? = some cell) (value : Int32) (rest : List Operation) :
    overwritten cells (.set index value :: rest) =
      .ok (.value cell.value) :: overwritten (cells.set index ⟨value⟩) rest := by
  rw [overwritten, step_set h]
  rfl

/-- An edit succeeds and adds and removes no cell. -/
theorem step_of_edits {cells : List Cell} {operation : Operation}
    (h : Edits cells.length operation) :
    (∃ reply, (step cells operation).answer = .ok reply) ∧
      (step cells operation).cells.length = cells.length := by
  cases h with
  | write index value =>
    rw [step_set (List.getElem?_eq_getElem index.isLt)]
    exact ⟨⟨_, rfl⟩, List.length_set⟩
  | exchange h hapart =>
    obtain ⟨hanswer, hcells⟩ := step_of_exchanges h hapart
    exact ⟨⟨_, hanswer⟩, by rw [hcells, length_swapAt]⟩

/-! ### Runs -/

section Runs
variable {length : Nat}

/-- Every step of a run of edits succeeds. -/
theorem steps_of_edits {cells : List Cell} (hlength : cells.length = length)
    {operations : List Operation} (h : ∀ operation ∈ operations, Edits length operation) :
    ∀ made ∈ steps cells operations, ∃ reply, made.answer = .ok reply := by
  induction operations generalizing cells with
  | nil => exact fun _ hmade => absurd hmade List.not_mem_nil
  | cons operation rest ih =>
    obtain ⟨hedit, hrest⟩ := List.forall_mem_cons.mp h
    subst hlength
    obtain ⟨hanswer, hlength⟩ := step_of_edits hedit
    intro made hmade
    rcases List.mem_cons.mp hmade with rfl | hmade
    · exact hanswer
    · exact ih hlength hrest made hmade

/-- What edits carry stays among the cells that are there. -/
theorem carried_lt {operations : List Operation}
    (h : ∀ operation ∈ operations, Edits length operation) {slot : Nat} (hslot : slot < length) :
    carried operations slot < length := by
  induction operations generalizing slot with
  | nil => exact hslot
  | cons operation rest ih =>
    obtain ⟨hedit, hrest⟩ := List.forall_mem_cons.mp h
    refine ih hrest ?_
    cases hedit with
    | write index value => exact hslot
    | exchange h hapart => exact carry_lt h hapart hslot

/-- Writes that wait are edits still. -/
theorem edits_writesLast {operations : List Operation}
    (h : ∀ operation ∈ operations, Edits length operation) :
    ∀ operation ∈ writesLast operations, Edits length operation := by
  have hwrites : ∀ operation ∈ carriedWrites operations, Edits length operation := by
    induction operations with
    | nil => exact fun _ hmem => absurd hmem List.not_mem_nil
    | cons first rest ih =>
      obtain ⟨hedit, hrest⟩ := List.forall_mem_cons.mp h
      intro operation hmem
      cases hedit with
      | write index value =>
        rcases List.mem_cons.mp hmem with rfl | hmem
        · exact .write ⟨_, carried_lt hrest index.isLt⟩ value
        · exact ih hrest operation hmem
      | exchange hexchange _ =>
        rw [carriedWrites_cons (not_isWrite_of_exchanges hexchange)] at hmem
        exact ih hrest operation hmem
  intro operation hmem
  rcases List.mem_append.mp hmem with hmem | hmem
  · exact h operation (List.mem_filter.mp hmem).1
  · exact hwrites operation hmem

/-- A run of exchanges carries every cell to its new slot, and what is written before it
may be written behind it. The writes in between are left out of the run but are followed
all the same: they carry nothing. -/
theorem run_exchangesOf {cells : List Cell} (hlength : cells.length = length)
    {operations : List Operation} (h : ∀ operation ∈ operations, Edits length operation)
    (slot : Nat) (cell : Cell) :
    (run cells (exchangesOf operations))[carried operations slot]? = cells[slot]? ∧
      run (cells.set slot cell) (exchangesOf operations) =
        (run cells (exchangesOf operations)).set (carried operations slot) cell := by
  induction operations generalizing cells slot with
  | nil => exact ⟨rfl, rfl⟩
  | cons operation rest ih =>
    obtain ⟨hedit, hrest⟩ := List.forall_mem_cons.mp h
    subst hlength
    cases hedit with
    | write index value => exact ih rfl hrest slot
    | exchange hexchange hapart =>
      have hkept : exchangesOf (operation :: rest) = operation :: exchangesOf rest :=
        List.filter_cons_of_pos (by rw [not_isWrite_of_exchanges hexchange]; rfl)
      obtain ⟨hcarried, hwritten⟩ :=
        ih (step_of_edits (.exchange hexchange hapart)).2 hrest (carry operation slot)
      rw [hkept, run, run, cells_step_set hexchange hapart,
        ← getElem?_step_carry hexchange hapart slot]
      exact ⟨hcarried, hwritten⟩

end Runs

/-- Putting off the writes of a run changes neither the cells nor the answers. -/
theorem run_writesLast {cells : List Cell} {length : Nat} (hlength : cells.length = length)
    {operations : List Operation} (h : ∀ operation ∈ operations, Edits length operation) :
    run cells (writesLast operations) = run cells operations ∧
      overwritten cells (writesLast operations) = overwritten cells operations := by
  induction operations generalizing cells with
  | nil => exact ⟨rfl, rfl⟩
  | cons operation rest ih =>
    obtain ⟨hedit, hrest⟩ := List.forall_mem_cons.mp h
    subst hlength
    cases hedit with
    | write index value =>
      have hcell := List.getElem?_eq_getElem index.isLt
      obtain ⟨hcarried, hwritten⟩ := run_exchangesOf rfl hrest index ⟨value⟩
      rw [hcell] at hcarried
      have hafter : (cells.set index ⟨value⟩).length = cells.length := List.length_set
      obtain ⟨hrun, hanswers⟩ := ih hafter hrest
      rw [writesLast, run_append, hwritten] at hrun
      rw [writesLast, overwritten_append, overwritten_exchangesOf, hwritten] at hanswers
      have hsplit : writesLast (.set index value :: rest) =
          exchangesOf rest ++ .set (carried rest index) value :: carriedWrites rest := rfl
      constructor
      · rw [hsplit, run_append, run_cons_set hcarried, run_cons_set hcell, hrun]
      · rw [hsplit, overwritten_append, overwritten_exchangesOf, overwritten_cons_set hcarried,
          overwritten_cons_set hcell, ← hanswers]
        rfl
    | exchange hexchange hapart =>
      obtain ⟨hrun, hanswers⟩ := ih (step_of_edits (.exchange hexchange hapart)).2 hrest
      rw [writesLast_cons (not_isWrite_of_exchanges hexchange)]
      refine ⟨hrun, ?_⟩
      rw [overwritten, hanswers, overwritten]

/-- **The writes of a run can wait for its exchanges.** When all exchanges are made first and
then the writes, in their order, each at the slot to which the exchanges behind it carried
its own, the cells in the end are the same, no step fails and every write hands back the
value that it handed back in its place. -/
theorem writes_deferrable (cells : List Cell) {operations : List Operation}
    (h : ∀ operation ∈ operations, Edits cells.length operation) :
    run cells (writesLast operations) = run cells operations ∧
      overwritten cells (writesLast operations) = overwritten cells operations ∧
      (∀ made ∈ steps cells operations, ∃ reply, made.answer = .ok reply) ∧
      ∀ made ∈ steps cells (writesLast operations), ∃ reply, made.answer = .ok reply := by
  obtain ⟨hrun, hanswers⟩ := run_writesLast rfl h
  exact ⟨hrun, hanswers, steps_of_edits rfl h, steps_of_edits rfl (edits_writesLast h)⟩

/-- Two writes travel in one slot and a third is overwritten on the way. -/
theorem writes_deferrable_mixed :
    let cells : List Cell := [⟨1⟩, ⟨2⟩, ⟨3⟩]
    let operations : List Operation :=
      [.set 0 7, .swapAt 2 0, .set 2 8, .swapWith 1 2, .set 0 9, .swap 0 1]
    (∀ operation ∈ operations, Edits cells.length operation) ∧
      writesLast operations =
        [.swapAt 2 0, .swapWith 1 2, .swap 0 1, .set 0 7, .set 0 8, .set 1 9] ∧
      run cells (writesLast operations) = run cells operations ∧
      run cells operations = [⟨8⟩, ⟨9⟩, ⟨2⟩] ∧
      overwritten cells (writesLast operations) = overwritten cells operations ∧
      overwritten cells operations = [.ok (.value 1), .ok (.value 7), .ok (.value 3)] := by
  intro cells operations
  have hedits : ∀ operation ∈ operations, Edits cells.length operation := by
    have hswapAt : Edits 3 (.swapAt 2 0) := .exchange (.swapAt 2 0) (by decide)
    have hswapWith : Edits 3 (.swapWith 1 2) := .exchange (.swapWith 1 2) (by decide)
    have hswap : Edits 3 (.swap 0 1) := .exchange (.swap 0 1) (by decide)
    simpa [operations, cells] using
      ⟨.write 0 7, hswapAt, .write 2 8, hswapWith, .write 0 9, hswap⟩
  obtain ⟨hrun, hanswers, -, -⟩ := writes_deferrable cells hedits
  exact ⟨hedits, by decide, hrun, by decide, hanswers, by decide⟩

end Store
end SlotSwap
