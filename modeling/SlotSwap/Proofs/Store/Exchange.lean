import Mathlib.Data.List.Forall2
import SlotSwap.Proofs.Slots.Window
import SlotSwap.Store

/-! Operations that exchange cells.

However an operation exchanges two cells, in place, through their values or by putting
them back the other way round, it leaves the cells that a checked swap of the two slots
leaves. That is so for every two positions: where the operation finds no cell the swap
is refused, and where both name one cell neither moves anything. `Exchanges` lists the
operations that exchange two given cells, and `exchanges_interchangeable` says that in a
run any of them may stand for any other. -/
namespace SlotSwap.Store
open Log Slots Text

/-! ### The cells that an operation leaves -/

/-- Two cells that are put back crosswise are swapped. -/
theorem putBack_crossed {cells : List Cell} {i j : Nat} {first second : Cell}
    (hfirst : cells[i]? = some first) (hsecond : cells[j]? = some second) :
    putBack cells i j (second, first) = (Slots.swapAt cells i j).slots :=
  (slots_swapAt_eq_set hfirst hsecond).symm

/-- Putting two cells back crosswise is a swap, wherever the positions point. -/
theorem cells_withCells_crossed (cells : List Cell) (i j : Nat) :
    (withCells cells i j fun first second =>
      .replied .done (putBack cells i j (second, first))).cells =
        (Slots.swapAt cells i j).slots := by
  unfold withCells
  split
  · next first second hfirst hsecond => exact putBack_crossed hfirst hsecond
  · next hmissing =>
    refine (slots_swapAt_of_not_apart fun hapart => ?_).symm
    exact hmissing _ _ (List.getElem?_eq_getElem hapart.1) (List.getElem?_eq_getElem hapart.2.1)

/-- The same for an operation that wants two different cells. -/
theorem cells_exchanging (cells : List Cell) (i j : Nat) :
    (exchanging cells i j fun first second => (second, first)).cells =
      (Slots.swapAt cells i j).slots := by
  unfold exchanging
  by_cases hij : i = j
  · rw [if_pos hij]
    exact (slots_swapAt_of_not_apart fun hapart => hapart.2.2 hij).symm
  · rw [if_neg hij]
    exact cells_withCells_crossed cells i j

theorem cells_step_swap (cells : List Cell) (i j : Nat) :
    (step cells (.swap i j)).cells = (Slots.swapAt cells i j).slots :=
  cells_exchanging cells i j

theorem cells_step_swapWith (cells : List Cell) (i j : Nat) :
    (step cells (.swapWith i j)).cells = (Slots.swapAt cells i j).slots :=
  cells_exchanging cells i j

theorem cells_step_cross (cells : List Cell) (i j : Nat) :
    (step cells (.cross i j)).cells = (Slots.swapAt cells i j).slots :=
  cells_withCells_crossed cells i j

/-! ### The operations that exchange two cells -/

/-- What may be asked of a store of `length` cells to exchange the two cells of a call. -/
inductive Exchanges (length : Nat) : Call → Operation → Prop where
  | swap (i j : Nat) : Exchanges length (i, j) (.swap i j)
  | swapWith (i j : Nat) : Exchanges length (i, j) (.swapWith i j)
  | cross (i j : Nat) : Exchanges length (i, j) (.cross i j)
  | swapAt (i j : Nat) : Exchanges length (i, j) (.swapAt i j)
  /-- A window that holds both cells counts their positions from its first slot. -/
  | swapInside (first last i j : Nat) (hi : first + i < last) (hj : first + j < last)
      (hlast : last ≤ length) :
      Exchanges length (first + i, first + j) (.swapInside first last i j)
  /-- Either cell may be named first. -/
  | turned {i j : Nat} {operation : Operation} (h : Exchanges length (j, i) operation) :
      Exchanges length (i, j) operation

variable {cells : List Cell}

theorem answer_withCells {i j : Nat} {act : Cell → Cell → Step} (hi : i < cells.length)
    (hj : j < cells.length) (hact : ∀ first second, (act first second).answer = .ok .done) :
    (withCells cells i j act).answer = .ok .done := by
  rw [withCells, List.getElem?_eq_getElem hi, List.getElem?_eq_getElem hj]
  exact hact _ _

theorem answer_exchanging {i j : Nat} {act : Cell → Cell → Cell × Cell}
    (hapart : Apart cells.length (i, j)) : (exchanging cells i j act).answer = .ok .done := by
  rw [exchanging, if_neg hapart.2.2]
  exact answer_withCells hapart.1 hapart.2.1 fun _ _ => rfl

theorem answer_ofAttempt {attempt : Attempt Cell} (h : attempt.result = .ok ()) :
    (Step.ofAttempt attempt).answer = .ok .done := by
  simp only [Step.ofAttempt, h]

/-- One step of any form succeeds and leaves what the checked swap leaves. -/
theorem step_of_exchanges {call : Call} {operation : Operation}
    (h : Exchanges cells.length call operation) (hapart : Apart cells.length call) :
    (step cells operation).answer = .ok .done ∧
      (step cells operation).cells = (Slots.swapAt cells call.1 call.2).slots := by
  induction h with
  | swap i j => exact ⟨answer_exchanging hapart, cells_step_swap cells i j⟩
  | swapWith i j => exact ⟨answer_exchanging hapart, cells_step_swapWith cells i j⟩
  | cross i j =>
    exact ⟨answer_withCells hapart.1 hapart.2.1 fun _ _ => rfl, cells_step_cross cells i j⟩
  | swapAt i j => exact ⟨answer_ofAttempt (result_swapAt_eq_ok_iff.mpr hapart), rfl⟩
  | swapInside first last i j hi hj hlast =>
    have hwindow : first ≤ last ∧ last ≤ cells.length := ⟨by omega, hlast⟩
    have hlength : (Window.inside ⟨first, last, hwindow.1⟩ cells).length = last - first :=
      Window.length_inside _ _ hlast
    have hinside : Apart (Window.inside ⟨first, last, hwindow.1⟩ cells).length (i, j) := by
      rw [hlength]
      exact ⟨by omega, by omega, fun hij => hapart.2.2 (congrArg (first + ·) hij)⟩
    simp only [step, dif_pos hwindow]
    exact ⟨answer_ofAttempt (result_swapAt_eq_ok_iff.mpr hinside),
      Window.slots_swapAt hlast hi hj⟩
  | turned h ih =>
    obtain ⟨hanswer, hcells⟩ := ih hapart.turned
    exact ⟨hanswer, hcells.trans (slots_swapAt_comm ..)⟩

/-- A run of exchanges of any forms leaves, step by step, what the run of the checked
swaps leaves. -/
theorem steps_of_exchanges {length : Nat} (hlength : cells.length = length) {calls : List Call}
    {operations : List Operation} (h : List.Forall₂ (Exchanges length) calls operations)
    (hcalls : ∀ call ∈ calls, Apart length call) :
    (steps cells operations).map (·.cells) = (attempts cells calls).map (·.slots) ∧
      ∀ made ∈ steps cells operations, made.answer = .ok .done := by
  induction h generalizing cells with
  | nil => exact ⟨rfl, fun _ hmade => absurd hmade List.not_mem_nil⟩
  | @cons call operation calls operations hfirst hrest ih =>
    subst hlength
    obtain ⟨hanswer, hcells⟩ := step_of_exchanges hfirst (hcalls call (List.mem_cons_self ..))
    have hlength : (step cells operation).cells.length = cells.length := by
      rw [hcells, length_swapAt]
    obtain ⟨hmap, hanswers⟩ :=
      ih hlength fun other hother => hcalls other (List.mem_cons_of_mem _ hother)
    refine ⟨?_, fun made hmade => ?_⟩
    · rw [steps, attempts, List.map_cons, List.map_cons, hmap, hcells]
    · rcases List.mem_cons.mp hmade with rfl | hmade
      · exact hanswer
      · exact hanswers made hmade

/-- A cell put back crosswise with itself changes nothing. -/
theorem step_cross_self {index : Nat} (h : index < cells.length) :
    step cells (.cross index index) = .replied .done cells := by
  have hcell := List.getElem?_eq_getElem h
  simp only [step, withCells, hcell, crossed, putBack_crossed hcell hcell, swapAt_same h]

/-- A checked swap of a cell with itself is refused. -/
theorem step_swapAt_self {index : Nat} (h : index < cells.length) :
    step cells (.swapAt index index) =
      ⟨.error (.refusedSwap (.aliased (Decimal.ofNat index))), cells, [selfSwapEvent index]⟩ := by
  simp only [step, swapAt_same h, Step.ofAttempt]

/-- **Every form of exchange may stand for every other.** Two runs that exchange the same
cells, each step in whatever form, succeed throughout and have the same cells after every
step, those that the checked swaps leave. A cell put back crosswise with itself changes
nothing; a checked swap of a cell with itself changes nothing either, but is refused. -/
theorem exchanges_interchangeable (cells : List Cell) {calls : List Call}
    {first second : List Operation} (hcalls : ∀ call ∈ calls, Apart cells.length call)
    (hfirst : List.Forall₂ (Exchanges cells.length) calls first)
    (hsecond : List.Forall₂ (Exchanges cells.length) calls second) :
    (steps cells first).map (·.cells) = (steps cells second).map (·.cells) ∧
      (steps cells first).map (·.cells) = (attempts cells calls).map (·.slots) ∧
      (∀ made ∈ steps cells first, made.answer = .ok .done) ∧
      ∀ index < cells.length,
        step cells (.cross index index) = .replied .done cells ∧
          step cells (.swapAt index index) =
            ⟨.error (.refusedSwap (.aliased (Decimal.ofNat index))), cells,
              [selfSwapEvent index]⟩ := by
  obtain ⟨hcells, hanswers⟩ := steps_of_exchanges rfl hfirst hcalls
  obtain ⟨hothers, -⟩ := steps_of_exchanges rfl hsecond hcalls
  exact ⟨hcells.trans hothers.symm, hcells, hanswers,
    fun _ hindex => ⟨step_cross_self hindex, step_swapAt_self hindex⟩⟩

/-- Three exchanges, none in the same form in both runs. -/
theorem exchanges_interchangeable_mixed :
    let cells : List Cell := [⟨1⟩, ⟨2⟩, ⟨3⟩, ⟨4⟩]
    let calls : List Call := [(0, 3), (1, 2), (3, 1)]
    let first : List Operation := [.swap 0 3, .swapInside 1 4 1 0, .swapWith 1 3]
    let second : List Operation := [.swapAt 3 0, .cross 1 2, .swapInside 1 4 2 0]
    (∀ call ∈ calls, Apart cells.length call) ∧
      List.Forall₂ (Exchanges cells.length) calls first ∧
      List.Forall₂ (Exchanges cells.length) calls second ∧
      (steps cells first).map (·.cells) = (steps cells second).map (·.cells) ∧
      (steps cells second).map (·.cells) =
        [[⟨4⟩, ⟨2⟩, ⟨3⟩, ⟨1⟩], [⟨4⟩, ⟨3⟩, ⟨2⟩, ⟨1⟩], [⟨4⟩, ⟨1⟩, ⟨2⟩, ⟨3⟩]] ∧
      step cells (.cross 2 2) = .replied .done cells ∧
      step cells (.swapAt 2 2) =
        ⟨.error (.refusedSwap (.aliased "2")), cells, [selfSwapEvent 2]⟩ := by
  intro cells calls first second
  have hcalls : ∀ call ∈ calls, Apart cells.length call := by decide
  have hfirst : List.Forall₂ (Exchanges cells.length) calls first :=
    .cons (.swap 0 3) (.cons (.turned (.swapInside 1 4 1 0 (by decide) (by decide) (by decide)))
      (.cons (.turned (.swapWith 1 3)) .nil))
  have hsecond : List.Forall₂ (Exchanges cells.length) calls second :=
    .cons (.turned (.swapAt 3 0)) (.cons (.cross 1 2)
      (.cons (.swapInside 1 4 2 0 (by decide) (by decide) (by decide)) .nil))
  obtain ⟨hsame, -, -, hself⟩ := exchanges_interchangeable cells hcalls hfirst hsecond
  exact ⟨hcalls, hfirst, hsecond, hsame, by decide, hself 2 (by decide)⟩

end SlotSwap.Store
