import Mathlib.GroupTheory.Perm.Sign
import SlotSwap.Proofs.Slots.Journal
import SlotSwap.Proofs.Slots.Permutation

/-! The parity of a run.

Every call that succeeds is one transposition, so the sign of a run's rearrangement tells
whether its successes are even or odd in number (`sign_rearrangement_eq_one_iff`). Where
no two slots hold the same value, the slots at the end tell the rearrangement, and with it
the sign: `successes_parity` says that runs with the same end agree in the parity of their
successes, however many calls were refused on the way. -/
namespace SlotSwap.Slots
open Log

/-- How many calls of a run succeed. -/
def successes (slots : List α) (calls : List Call) : Nat :=
  (results slots calls).countP (·.isOk)

/-! ### Counting the successes -/

theorem successes_cons (slots : List α) (i j : Nat) (rest : List Call) :
    successes slots ((i, j) :: rest) =
      successes (swapAt slots i j).slots rest +
        if (swapAt slots i j).result.isOk then 1 else 0 := by
  rw [successes, results_cons, List.countP_cons]
  rfl

theorem countP_trace_eventsOf (call : Call) (result : Except Error Unit) :
    (eventsOf call result).countP (·.level = .trace) = if result.isOk then 1 else 0 := by
  cases result with
  | ok value => rfl
  | error why => cases why <;> rfl

/-- A success is what emits an event of the most detailed level. -/
theorem countP_trace_log (slots : List α) (calls : List Call) :
    (log slots calls).countP (·.level = .trace) = successes slots calls := by
  induction calls generalizing slots with
  | nil => rfl
  | cons call rest ih =>
    obtain ⟨i, j⟩ := call
    rw [log_cons, List.countP_append, ih, log_swapAt, countP_trace_eventsOf, successes_cons,
      Nat.add_comm]

/-- A success is a transposition of the run. -/
theorem length_transpositions {slots : List α} {length : Nat} (hlength : slots.length = length)
    (calls : List Call) : (transpositions length calls).length = successes slots calls := by
  induction calls generalizing slots with
  | nil => rfl
  | cons call rest ih =>
    obtain ⟨i, j⟩ := call
    have hrest := ih ((length_swapAt slots i j).trans hlength)
    rw [transpositions] at hrest ⊢
    subst hlength
    by_cases hapart : Apart slots.length (i, j)
    · rw [List.filterMap_cons_some (transposition?_of_apart hapart), List.length_cons, hrest,
        successes_cons, result_swapAt_eq_ok_iff.mpr hapart]
      rfl
    · obtain ⟨why, hwhy⟩ := result_swapAt_of_not_apart hapart
      rw [List.filterMap_cons_none (transposition?_of_not_apart hapart), hrest, successes_cons,
        hwhy]
      rfl

/-! ### The sign -/

theorem isSwap_of_mem_transpositions {length : Nat} {calls : List Call}
    {moved : Equiv.Perm (Fin length)} (h : moved ∈ transpositions length calls) :
    moved.IsSwap := by
  obtain ⟨call, -, hcall⟩ := List.mem_filterMap.mp h
  by_cases hapart : Apart length call
  · rw [transposition?_of_apart hapart, Option.some.injEq] at hcall
    exact ⟨_, _, fun hsame => hapart.2.2 (congrArg Fin.val hsame), hcall.symm⟩
  · rw [transposition?_of_not_apart hapart] at hcall
    cases hcall

/-- The rearrangement of a run is even exactly when the number of its successes is. -/
theorem sign_rearrangement_eq_one_iff (slots : List α) (calls : List Call) :
    Equiv.Perm.sign (rearrangement slots.length calls) = 1 ↔ Even (successes slots calls) := by
  rw [rearrangement, Equiv.Perm.sign_prod_list_swap fun _ => isSwap_of_mem_transpositions,
    length_transpositions rfl]
  exact neg_one_pow_eq_one_iff_even (by decide)

/-- Slots of different values tell where each value came from. -/
theorem rearrangement_eq_of_run_eq {slots : List α} (hdistinct : slots.Nodup) {a b : List Call}
    (h : run slots a = run slots b) :
    rearrangement slots.length a = rearrangement slots.length b := by
  refine Equiv.ext fun k => Fin.ext ?_
  have hvalue := congrArg (·[k.val]?) h
  simp only [getElem?_run rfl] at hvalue
  exact (List.getElem?_inj (rearrangement slots.length a k).isLt hdistinct).mp hvalue

/-- **Runs from different values to one end agree in the parity of their successes.** A run
with an odd number of them, which is the number of its events of the most detailed level,
changes the slots. -/
theorem successes_parity {slots : List α} (hdistinct : slots.Nodup) (a b : List Call) :
    (run slots a = run slots b → (Even (successes slots a) ↔ Even (successes slots b))) ∧
      (log slots a).countP (·.level = .trace) = successes slots a ∧
      (Odd (successes slots a) → run slots a ≠ slots) := by
  have hsame : ∀ calls, run slots a = run slots calls →
      (Even (successes slots a) ↔ Even (successes slots calls)) := by
    intro calls hend
    rw [← sign_rearrangement_eq_one_iff, ← sign_rearrangement_eq_one_iff,
      rearrangement_eq_of_run_eq hdistinct hend]
  refine ⟨hsame b, countP_trace_log slots a, fun hodd hend => ?_⟩
  have heven := (hsame [] hend).mpr (Even.zero)
  exact Nat.not_even_iff_odd.mpr hodd heven

/-- Two runs of two successes to one end, and one of a single success; calls are refused in
each of them. -/
theorem successes_parity_three :
    let slots := [10, 20, 30]
    let there : List Call := [(0, 1), (1, 1), (1, 2)]
    let around : List Call := [(0, 2), (3, 3), (1, 0)]
    let once : List Call := [(2, 0), (0, 7)]
    slots.Nodup ∧ run slots there = run slots around ∧
      (Even (successes slots there) ↔ Even (successes slots around)) ∧
      Odd (successes slots once) ∧ run slots once ≠ slots := by
  intro slots there around once
  have hdistinct : slots.Nodup := by decide
  have hend : run slots there = run slots around := by decide
  have hodd : Odd (successes slots once) := by decide
  exact ⟨hdistinct, hend, (successes_parity hdistinct there around).1 hend, hodd,
    (successes_parity hdistinct once there).2.2 hodd⟩

end SlotSwap.Slots
