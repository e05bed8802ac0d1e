import SlotSwap.Slots.Swap

/-! Runs of swaps.

A run is a list of calls, each made on the slots that the one before it left,
refused or not. `attempts` keeps what every call left, `run` only the slots at the
end, `log` the events in the order in which they were emitted. -/
namespace SlotSwap.Slots
open Log

/-- The two positions of a call, as they were given. -/
abbrev Call := Nat × Nat

def attempts (slots : List α) : List Call → List (Attempt α)
  | [] => []
  | (i, j) :: rest => swapAt slots i j :: attempts (swapAt slots i j).slots rest

def run (slots : List α) : List Call → List α
  | [] => slots
  | (i, j) :: rest => run (swapAt slots i j).slots rest

def results (slots : List α) (calls : List Call) : List (Except Error Unit) :=
  (attempts slots calls).map (·.result)

def log (slots : List α) (calls : List Call) : List Event :=
  (attempts slots calls).flatMap (·.log)

theorem run_cons (slots : List α) (i j : Nat) (rest : List Call) :
    run slots ((i, j) :: rest) = run (swapAt slots i j).slots rest := rfl

theorem results_cons (slots : List α) (i j : Nat) (rest : List Call) :
    results slots ((i, j) :: rest) =
      (swapAt slots i j).result :: results (swapAt slots i j).slots rest := rfl

theorem log_cons (slots : List α) (i j : Nat) (rest : List Call) :
    log slots ((i, j) :: rest) = (swapAt slots i j).log ++ log (swapAt slots i j).slots rest := rfl

theorem run_append (slots : List α) (a b : List Call) :
    run slots (a ++ b) = run (run slots a) b := by
  induction a generalizing slots with
  | nil => rfl
  | cons call rest ih => exact ih _

/-- The call of a run at some place is made on what the calls before it left. -/
theorem getElem?_attempts (slots : List α) (calls : List Call) (n : Nat) :
    (attempts slots calls)[n]? =
      calls[n]?.map fun call => swapAt (run slots (calls.take n)) call.1 call.2 := by
  induction calls generalizing slots n with
  | nil => rfl
  | cons call rest ih =>
    cases n with
    | zero => rfl
    | succ n => exact ih _ n

theorem run_take_succ (slots : List α) (calls : List Call) (n : Fin calls.length) :
    run slots (calls.take (n + 1)) =
      (swapAt (run slots (calls.take n)) calls[n].1 calls[n].2).slots := by
  rw [List.take_succ_eq_append_getElem n.isLt, run_append]
  rfl

/-- No run adds or removes a slot. -/
theorem length_run (slots : List α) (calls : List Call) :
    (run slots calls).length = slots.length := by
  induction calls generalizing slots with
  | nil => rfl
  | cons call rest ih => exact (ih _).trans (length_swapAt ..)

end SlotSwap.Slots
