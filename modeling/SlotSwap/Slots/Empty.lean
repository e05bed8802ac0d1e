import SlotSwap.Slots.Run

/-! Slots that hold nothing.

Slots without contents all look alike, so their number alone says what a swap does
to them: no list is built, however many there are. A call on any list of that many
slots gives the same result and events (`swapEmpty_length`), and so does every call of
a run (`attempts_eq_swapEmpty`). -/
namespace SlotSwap.Slots
open Log Text

/-- A call on `count` slots that hold nothing: its result and its events. -/
def swapEmpty (count i j : Nat) : Except Error Unit × List Event :=
  match [i, j].find? fun index => count ≤ index with
  | some index => (.error (.outOfBounds index count), [])
  | none =>
    if i = j then (.error (.aliased (Decimal.ofNat i)), [selfSwapEvent i])
    else (.ok (), [swappedEvent i j])

/-- What the slots hold decides neither the result nor the events. -/
theorem swapEmpty_length (slots : List α) (i j : Nat) :
    swapEmpty slots.length i j = ((swapAt slots i j).result, (swapAt slots i j).log) := by
  by_cases hi : slots.length ≤ i
  · simp [swapEmpty, swapAt, hi]
  · by_cases hj : slots.length ≤ j
    · simp [swapEmpty, swapAt, hi, hj]
    · by_cases hij : i = j
      · subst hij
        simp [swapEmpty, swapAt, hi]
      · simp [swapEmpty, swapAt, hi, hj, hij]

/-! ### Runs -/

variable (slots : List α)

/-- Every call of a run does what it does to as many slots that hold nothing. -/
theorem attempts_eq_swapEmpty (calls : List Call) :
    (attempts slots calls).map (fun attempt => (attempt.result, attempt.log)) =
      calls.map fun call => swapEmpty slots.length call.1 call.2 := by
  induction calls generalizing slots with
  | nil => rfl
  | cons call rest ih =>
    obtain ⟨i, j⟩ := call
    rw [attempts, List.map_cons, ih, length_swapAt, List.map_cons, swapEmpty_length]

theorem results_eq_swapEmpty (calls : List Call) :
    results slots calls = calls.map fun call => (swapEmpty slots.length call.1 call.2).1 := by
  have h := congrArg (List.map Prod.fst) (attempts_eq_swapEmpty slots calls)
  rw [List.map_map, List.map_map] at h
  exact h

theorem log_eq_swapEmpty (calls : List Call) :
    log slots calls = calls.flatMap fun call => (swapEmpty slots.length call.1 call.2).2 := by
  have h := congrArg (List.flatMap Prod.snd) (attempts_eq_swapEmpty slots calls)
  rw [List.flatMap_map, List.flatMap_map] at h
  exact h

end SlotSwap.Slots
