import SlotSwap.Proofs.Slots.Call
import SlotSwap.Store

/-! Failed operations leave no trace.

An operation may fail because a swap is refused, because a text is no JSON or holds
something else than a cell, or because it names cells that are not there. Whichever it
is, the cells stay as they were: every step is `Atomic`. So a failed operation can be
struck out of a run and nobody can tell: `failures_invisible` compares the two runs step
by step, with their answers and their events. -/
namespace SlotSwap.Store
open Slots

/-! ### One step -/

/-- A step that fails leaves the cells as they were. -/
def Step.Atomic (cells : List Cell) (step : Step) : Prop :=
  ∀ why, step.answer = .error why → step.cells = cells

variable {cells : List Cell}

theorem atomic_failed (why : Failure) : (Step.failed why cells).Atomic cells :=
  fun _ _ => rfl

theorem atomic_replied (reply : Reply) (after : List Cell) :
    (Step.replied reply after).Atomic cells := by
  intro why h
  cases h

theorem atomic_ofAttempt {attempt : Attempt Cell}
    (h : ∀ why, attempt.result = .error why → attempt.slots = cells) :
    (Step.ofAttempt attempt).Atomic cells := by
  intro why hfailed
  simp only [Step.ofAttempt] at hfailed
  split at hfailed
  · cases hfailed
  · next error hrefused => exact h error hrefused

theorem atomic_withCell {index : Nat} {act : Cell → Step}
    (h : ∀ cell, (act cell).Atomic cells) : (withCell cells index act).Atomic cells := by
  unfold withCell
  split
  · exact h _
  · exact atomic_failed _

theorem atomic_withCells {i j : Nat} {act : Cell → Cell → Step}
    (h : ∀ first second, (act first second).Atomic cells) :
    (withCells cells i j act).Atomic cells := by
  unfold withCells
  split
  · exact h _ _
  · exact atomic_failed _

theorem atomic_exchanging {i j : Nat} {act : Cell → Cell → Cell × Cell} :
    (exchanging cells i j act).Atomic cells := by
  unfold exchanging
  split
  · exact atomic_failed _
  · exact atomic_withCells fun _ _ => atomic_replied _ _

/-- No operation fails half way. -/
theorem step_atomic (cells : List Cell) (operation : Operation) :
    (step cells operation).Atomic cells := by
  cases operation with
  | new value => exact atomic_replied _ _
  | convert value => exact atomic_replied _ _
  | fresh => exact atomic_replied _ _
  | parse text =>
    simp only [step]
    split
    · exact atomic_replied _ _
    · exact atomic_failed _
  | load text =>
    simp only [step]
    split
    · exact atomic_replied _ _
    · exact atomic_failed _
  | save => exact atomic_replied _ _
  | get index => exact atomic_withCell fun _ => atomic_replied _ _
  | set index value => exact atomic_withCell fun _ => atomic_replied _ _
  | display index => exact atomic_withCell fun _ => atomic_replied _ _
  | equal i j => exact atomic_withCells fun _ _ => atomic_replied _ _
  | swap i j => exact atomic_exchanging
  | swapWith i j => exact atomic_exchanging
  | cross i j => exact atomic_withCells fun _ _ => atomic_replied _ _
  | swapAt i j => exact atomic_ofAttempt fun _ h => slots_swapAt_of_error h
  | swapInside first last i j =>
    simp only [step]
    split
    · exact atomic_ofAttempt fun _ h => Window.slots_swapAt_of_error h
    · exact atomic_failed _

/-! ### Runs without their failures -/

/-- The operations of a run that are answered with a reply. -/
def answered (cells : List Cell) (operations : List Operation) : List Operation :=
  ((operations.zip (steps cells operations)).filter fun (_, step) => step.answer.isOk).map (·.1)

theorem answered_cons_of_ok {operation : Operation} {reply : Reply}
    (h : (step cells operation).answer = .ok reply) (rest : List Operation) :
    answered cells (operation :: rest) =
      operation :: answered (step cells operation).cells rest := by
  simp [answered, steps, h, Except.isOk, Except.toBool]

/-- A failed operation is left out, and what is left begins at the cells it found. -/
theorem answered_cons_of_error {operation : Operation} {why : Failure}
    (h : (step cells operation).answer = .error why) (rest : List Operation) :
    answered cells (operation :: rest) = answered cells rest := by
  have hcells := step_atomic cells operation why h
  simp [answered, steps, h, hcells, Except.isOk, Except.toBool]

theorem steps_answered_eq_filter (cells : List Cell) (operations : List Operation) :
    steps cells (answered cells operations) =
      (steps cells operations).filter (·.answer.isOk) := by
  induction operations generalizing cells with
  | nil => rfl
  | cons operation rest ih =>
    cases hanswer : (step cells operation).answer with
    | ok reply =>
      rw [answered_cons_of_ok hanswer, steps, steps,
        List.filter_cons_of_pos (by rw [hanswer]; rfl), ih]
    | error why =>
      rw [answered_cons_of_error hanswer, steps,
        List.filter_cons_of_neg (by rw [hanswer]; exact Bool.false_ne_true), ih,
        step_atomic cells operation why hanswer]

theorem run_answered (cells : List Cell) (operations : List Operation) :
    run cells (answered cells operations) = run cells operations := by
  induction operations generalizing cells with
  | nil => rfl
  | cons operation rest ih =>
    cases hanswer : (step cells operation).answer with
    | ok reply =>
      rw [answered_cons_of_ok hanswer]
      exact ih _
    | error why =>
      rw [answered_cons_of_error hanswer, run, step_atomic cells operation why hanswer, ih]

/-- **Failed operations are invisible.** Wherever a step of a run fails, it leaves the
cells that the steps before it left; and the run without its failed operations makes
the same steps as the rest of the whole run, with the same cells after each, the same
answers and the same events, and ends with the same cells. -/
theorem failures_invisible (cells : List Cell) (operations : List Operation) :
    (∀ (n : Nat) (failed : Step) (why : Failure), (steps cells operations)[n]? = some failed →
      failed.answer = .error why → failed.cells = run cells (operations.take n)) ∧
      steps cells (answered cells operations) =
        (steps cells operations).filter (·.answer.isOk) ∧
      run cells (answered cells operations) = run cells operations := by
  refine ⟨fun n failed why hstep hfailed => ?_, steps_answered_eq_filter cells operations,
    run_answered cells operations⟩
  rw [getElem?_steps, Option.map_eq_some_iff] at hstep
  obtain ⟨operation, -, rfl⟩ := hstep
  exact step_atomic _ operation why hfailed

end SlotSwap.Store
