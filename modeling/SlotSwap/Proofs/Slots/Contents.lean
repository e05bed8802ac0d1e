import SlotSwap.Proofs.Slots.Call
import SlotSwap.Slots.Empty

/-! What the slots hold does not matter.

A call moves values and never looks at one. So a change of the values made before a run
can as well be made after it: `attempts_map` says that every call of the run has the same
result and the same events either way, and leaves the slots that the change makes of the
others. Above all the values can be forgotten: results and events are those of as many
slots that hold nothing, for which no list is needed (`contents_irrelevant`). -/
namespace SlotSwap.Slots
open Log

/-! ### One call -/

/-- A call whose slots hold other values in the end. -/
def Attempt.map (f : α → β) (attempt : Attempt α) : Attempt β :=
  {attempt with slots := attempt.slots.map f}

variable (f : α → β) (slots : List α)

theorem slots_swapAt_map (i j : Nat) :
    (swapAt (slots.map f) i j).slots = (swapAt slots i j).slots.map f := by
  by_cases hapart : Apart slots.length (i, j)
  · have hx := List.getElem?_eq_getElem hapart.1
    have hy := List.getElem?_eq_getElem hapart.2.1
    rw [slots_swapAt_eq_set (List.getElem?_map.trans (congrArg (Option.map f) hx))
        (List.getElem?_map.trans (congrArg (Option.map f) hy)),
      slots_swapAt_eq_set hx hy, List.map_set, List.map_set]
  · have hmapped : ¬Apart (slots.map f).length (i, j) := by rwa [List.length_map]
    rw [slots_swapAt_of_not_apart hapart, slots_swapAt_of_not_apart hmapped]

/-- Result and events hang on the number of slots alone, which no change of the values
changes. -/
theorem swapAt_map (i j : Nat) : swapAt (slots.map f) i j = (swapAt slots i j).map f := by
  have hempty := swapEmpty_length (slots.map f) i j
  rw [List.length_map, swapEmpty_length slots i j] at hempty
  obtain ⟨hresult, hlog⟩ := Prod.mk.inj hempty
  calc swapAt (slots.map f) i j
    _ = ⟨(swapAt (slots.map f) i j).result, (swapAt (slots.map f) i j).slots,
          (swapAt (slots.map f) i j).log⟩ := rfl
    _ = (swapAt slots i j).map f := by
      rw [← hresult, ← hlog, slots_swapAt_map]
      rfl

/-! ### Runs -/

theorem attempts_map (calls : List Call) :
    attempts (slots.map f) calls = (attempts slots calls).map (Attempt.map f) := by
  induction calls generalizing slots with
  | nil => rfl
  | cons call rest ih =>
    obtain ⟨i, j⟩ := call
    rw [attempts, swapAt_map]
    exact congrArg _ (ih _)

theorem run_map (calls : List Call) : run (slots.map f) calls = (run slots calls).map f := by
  induction calls generalizing slots with
  | nil => rfl
  | cons call rest ih =>
    obtain ⟨i, j⟩ := call
    rw [run_cons, slots_swapAt_map, ih, run_cons]

/-- **No run looks at a value.** Other values in the slots leave every call its result and
its events and are moved as the first ones are. Results and events of a run are told by
the number of slots and the positions alone, call by call, and a call on that many slots
that hold nothing has the same. -/
theorem contents_irrelevant (calls : List Call) :
    attempts (slots.map f) calls = (attempts slots calls).map (Attempt.map f) ∧
      run (slots.map f) calls = (run slots calls).map f ∧
      results (slots.map f) calls = results slots calls ∧
      log (slots.map f) calls = log slots calls ∧
      results slots calls = (calls.map fun call => (swapEmpty slots.length call.1 call.2).1) ∧
      log slots calls = (calls.flatMap fun call => (swapEmpty slots.length call.1 call.2).2) ∧
      ∀ i j, swapEmpty slots.length i j = ((swapAt slots i j).result, (swapAt slots i j).log) := by
  refine ⟨attempts_map f slots calls, run_map f slots calls, ?_, ?_,
    results_eq_swapEmpty slots calls, log_eq_swapEmpty slots calls, swapEmpty_length slots⟩
  · rw [results_eq_swapEmpty, List.length_map, results_eq_swapEmpty]
  · rw [log_eq_swapEmpty, List.length_map, log_eq_swapEmpty]

end SlotSwap.Slots
