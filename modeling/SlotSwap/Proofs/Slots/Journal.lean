import SlotSwap.Proofs.Slots.Call

/-! The log as a journal.

A call that exchanges two slots says so in its event, with the positions as they were
given, and no other call emits an event of that level. So the log of a run is enough
to do the run again and to undo it: `journal` reads the positions back from the texts
of the events, and `journal_replays` says that its calls all succeed and lead from the
first slots to the last ones, and in reverse order from the last ones to the first. -/
namespace SlotSwap.Slots
open Log Text

/-! ### Reading the log -/

/-- The events that a call owes to its result: one with both positions as they were given,
one with the position that was named twice, none. -/
def eventsOf (call : Call) : Except Error Unit → List Event
  | .ok () =>
    [⟨.trace, "exchanged slots", [("i", Decimal.ofNat call.1), ("j", Decimal.ofNat call.2)]⟩]
  | .error (.aliased _) => [⟨.warn, "rejected self-swap", [("index", Decimal.ofNat call.1)]⟩]
  | .error (.outOfBounds ..) => []

/-- The call that an event of the most detailed level tells of. -/
def journaled? (event : Event) : Option Call :=
  if event.level = .trace then do
    let i ← event.fields.lookup "i"
    let j ← event.fields.lookup "j"
    return (← Decimal.toNat? i.toList, ← Decimal.toNat? j.toList)
  else none

/-- The calls that a log tells of, in the order of its events. -/
def journal (events : List Event) : List Call := events.filterMap journaled?

/-- The positions come back from the texts in which they were written. -/
theorem journaled?_swappedEvent (i j : Nat) : journaled? (swappedEvent i j) = some (i, j) := by
  simp [journaled?, swappedEvent, List.lookup_cons]

theorem journal_append (a b : List Event) : journal (a ++ b) = journal a ++ journal b :=
  List.filterMap_append

/-- Result and events of one call belong together. -/
theorem log_swapAt (slots : List α) (i j : Nat) :
    (swapAt slots i j).log = eventsOf (i, j) (swapAt slots i j).result := by
  rcases swapAt_cases slots i j with ⟨_, h⟩ | ⟨_, _, h⟩ | ⟨_, _, h⟩ | ⟨_, h⟩
  · rw [h]
    rfl
  · rw [h]
    rfl
  · rw [h]
    rfl
  · rw [h]
    rfl

/-- A call leaves itself in the journal exactly when it is not refused. -/
theorem journal_swapAt (slots : List α) (i j : Nat) :
    journal (swapAt slots i j).log = if Apart slots.length (i, j) then [(i, j)] else [] := by
  rcases swapAt_cases slots i j with ⟨hi, h⟩ | ⟨_, hj, h⟩ | ⟨_, hij, h⟩ | ⟨hapart, h⟩
  · rw [h, if_neg fun hapart => Nat.not_lt.mpr hi hapart.1]
    rfl
  · rw [h, if_neg fun hapart => Nat.not_lt.mpr hj hapart.2.1]
    rfl
  · rw [h, if_neg fun hapart => hapart.2.2 hij]
    rfl
  · rw [h, if_pos hapart]
    simp [journal, journaled?_swappedEvent]

/-! ### Runs and their logs -/

theorem log_eq_eventsOf (slots : List α) (calls : List Call) :
    log slots calls = (List.zipWith eventsOf calls (results slots calls)).flatten := by
  induction calls generalizing slots with
  | nil => rfl
  | cons call rest ih =>
    obtain ⟨i, j⟩ := call
    rw [log_cons, results_cons, log_swapAt, ih]
    rfl

/-- The journal of a run holds its calls without the refused ones. -/
theorem journal_log {slots : List α} {length : Nat} (hlength : slots.length = length)
    (calls : List Call) : journal (log slots calls) = calls.filter (Apart length ·) := by
  induction calls generalizing slots with
  | nil => rfl
  | cons call rest ih =>
    obtain ⟨i, j⟩ := call
    rw [log_cons, journal_append, journal_swapAt, ih ((length_swapAt slots i j).trans hlength),
      hlength, List.filter_cons]
    by_cases hapart : Apart length (i, j)
    · simp [hapart]
    · simp [hapart]

/-- Refused calls can be left out of a run. -/
theorem run_filter_apart {slots : List α} {length : Nat} (hlength : slots.length = length)
    (calls : List Call) : run slots (calls.filter (Apart length ·)) = run slots calls := by
  induction calls generalizing slots with
  | nil => rfl
  | cons call rest ih =>
    obtain ⟨i, j⟩ := call
    have hrest := ih ((length_swapAt slots i j).trans hlength)
    by_cases hapart : Apart length (i, j)
    · rw [List.filter_cons_of_pos (by simpa using hapart), run_cons, run_cons, hrest]
    · rw [List.filter_cons_of_neg (by simpa using hapart), run_cons, ← hrest]
      rw [← hlength] at hapart
      rw [slots_swapAt_of_not_apart hapart]

/-- A run of calls that each name two different slots succeeds throughout. -/
theorem results_of_apart {slots : List α} {calls : List Call}
    (h : ∀ call ∈ calls, Apart slots.length call) :
    results slots calls = List.replicate calls.length (.ok ()) := by
  induction calls generalizing slots with
  | nil => rfl
  | cons call rest ih =>
    obtain ⟨i, j⟩ := call
    have hfirst := result_swapAt_eq_ok_iff.mpr (h (i, j) (List.mem_cons_self ..))
    have hrest : results (swapAt slots i j).slots rest = List.replicate rest.length (.ok ()) := by
      refine ih fun call hcall => ?_
      rw [length_swapAt]
      exact h call (List.mem_cons_of_mem _ hcall)
    rw [results_cons, hfirst, hrest]
    rfl

/-- A run is undone by its calls in reverse order, the refused ones among them: what is
refused on the way there is refused on the way back. -/
theorem run_reverse (slots : List α) (calls : List Call) :
    run (run slots calls) calls.reverse = slots := by
  induction calls generalizing slots with
  | nil => rfl
  | cons call rest ih =>
    obtain ⟨i, j⟩ := call
    -- The first call is undone last, when `ih` has led back to what it left.
    rw [List.reverse_cons, run_append, run_cons slots, ih]
    exact swapAt_swapAt slots i j

/-- **The log of a run is a journal of it.** It holds one event for each call that
succeeded, with its positions as they were given, one for each that named one slot
twice, and none for a call that named a slot that is not there. The calls read back
from it all succeed and lead from the first slots to the last; in reverse order they
all succeed and lead back. -/
theorem journal_replays (slots : List α) (calls : List Call) :
    let made := journal (log slots calls)
    log slots calls = (List.zipWith eventsOf calls (results slots calls)).flatten ∧
      results slots made = List.replicate made.length (.ok ()) ∧
      run slots made = run slots calls ∧
      results (run slots calls) made.reverse = List.replicate made.length (.ok ()) ∧
      run (run slots calls) made.reverse = slots := by
  intro made
  have hmade : made = calls.filter (Apart slots.length ·) := journal_log rfl calls
  have hapart : ∀ call ∈ made, Apart slots.length call := by
    intro call hcall
    rw [hmade] at hcall
    simpa using (List.mem_filter.mp hcall).2
  have hforth : run slots made = run slots calls := by
    rw [hmade]
    exact run_filter_apart rfl calls
  refine ⟨log_eq_eventsOf slots calls, results_of_apart hapart, hforth, ?_, ?_⟩
  · rw [← List.length_reverse]
    refine results_of_apart fun call hcall => ?_
    rw [length_run]
    exact hapart call (List.mem_reverse.mp hcall)
  · rw [← hforth]
    exact run_reverse slots made

end SlotSwap.Slots
