import Mathlib.Algebra.BigOperators.Group.List.Basic
import Mathlib.Algebra.Group.End
import Mathlib.Data.List.FinRange
import SlotSwap.Proofs.Slots.Call

/-! Runs are permutations.

A call that is not refused transposes two positions and a refused one moves nothing,
so a whole run rearranges the slots. `rearrangement` composes the transpositions of a
run and says, for every slot, which slot its value stood in at the start. The calls
are composed with the last one innermost: to find where a value came from, the run is
read backwards. `attempts_rearrange` says that this holds after every call of every
run, and that the values are therefore the same ones, each as often as at first. -/
namespace SlotSwap.Slots

/-! ### The transpositions of a run -/

/-- The two positions that a call transposes, if it is not refused. -/
def transposition? (length : Nat) (call : Call) : Option (Equiv.Perm (Fin length)) :=
  if h : Apart length call then some (Equiv.swap ⟨call.1, h.1⟩ ⟨call.2, h.2.1⟩) else none

/-- The transpositions of a run, in the order of the calls. -/
def transpositions (length : Nat) (calls : List Call) : List (Equiv.Perm (Fin length)) :=
  calls.filterMap (transposition? length)

/-- Where the value of each slot stood before the run. -/
def rearrangement (length : Nat) (calls : List Call) : Equiv.Perm (Fin length) :=
  (transpositions length calls).prod

theorem transposition?_of_apart {length : Nat} {call : Call} (h : Apart length call) :
    transposition? length call = some (Equiv.swap ⟨call.1, h.1⟩ ⟨call.2, h.2.1⟩) :=
  dif_pos h

theorem transposition?_of_not_apart {length : Nat} {call : Call} (h : ¬Apart length call) :
    transposition? length call = none :=
  dif_neg h

theorem rearrangement_cons_of_apart {length : Nat} {call : Call} (h : Apart length call)
    (rest : List Call) :
    rearrangement length (call :: rest) =
      Equiv.swap ⟨call.1, h.1⟩ ⟨call.2, h.2.1⟩ * rearrangement length rest := by
  rw [rearrangement, transpositions, List.filterMap_cons_some (transposition?_of_apart h),
    List.prod_cons]
  rfl

theorem rearrangement_cons_of_not_apart {length : Nat} {call : Call} (h : ¬Apart length call)
    (rest : List Call) : rearrangement length (call :: rest) = rearrangement length rest := by
  rw [rearrangement, transpositions, List.filterMap_cons_none (transposition?_of_not_apart h)]
  rfl

/-! ### What a run leaves -/

/-- The same among the positions that there are. -/
theorem getElem?_swapAt_transposed {slots : List α} {i j : Nat}
    (h : Apart slots.length (i, j)) (k : Fin slots.length) :
    (swapAt slots i j).slots[k.val]? =
      slots[(Equiv.swap (⟨i, h.1⟩ : Fin slots.length) ⟨j, h.2.1⟩ k).val]? := by
  rw [getElem?_swapAt_swap h, Fin.val_injective.map_swap]

/-- After a run every slot holds what stood, at the start, in the slot that the run's
rearrangement points at. The length is a variable of its own because the slots change
under the induction and the positions must not. -/
theorem getElem?_run {slots : List α} {length : Nat} (hlength : slots.length = length)
    (calls : List Call) (k : Fin length) :
    (run slots calls)[k.val]? = slots[(rearrangement length calls k).val]? := by
  induction calls generalizing slots with
  | nil => rfl
  | cons call rest ih =>
    obtain ⟨i, j⟩ := call
    rw [run_cons, ih ((length_swapAt slots i j).trans hlength)]
    -- The first call is the outermost factor: the rest of the run is looked through first.
    by_cases hapart : Apart length (i, j)
    · subst hlength
      rw [getElem?_swapAt_transposed hapart, rearrangement_cons_of_apart hapart]
      rfl
    · rw [rearrangement_cons_of_not_apart hapart]
      rw [← hlength] at hapart
      rw [slots_swapAt_of_not_apart hapart]

theorem run_eq_ofFn (slots : List α) (calls : List Call) :
    run slots calls =
      List.ofFn fun k => slots[rearrangement slots.length calls k] := by
  refine List.ext_getElem? fun k => ?_
  rw [List.getElem?_ofFn]
  by_cases hk : k < slots.length
  · rw [dif_pos hk, getElem?_run rfl calls ⟨k, hk⟩]
    exact List.getElem?_eq_getElem _
  · rw [dif_neg hk, List.getElem?_eq_none (by rw [length_run]; exact Nat.le_of_not_lt hk)]

/-- No run loses or duplicates a value. -/
theorem run_perm (slots : List α) (calls : List Call) : (run slots calls).Perm slots := by
  have hrearranged := Equiv.Perm.ofFn_comp_perm (rearrangement slots.length calls) slots.get
  rw [List.ofFn_get] at hrearranged
  rw [run_eq_ofFn]
  exact hrearranged

theorem swapAt_perm (slots : List α) (i j : Nat) : (swapAt slots i j).slots.Perm slots :=
  run_perm slots [(i, j)]

/-- Nor does a swap inside a window. -/
theorem Window.swapAt_perm (w : Window) (slots : List α) (i j : Nat) :
    (w.swapAt slots i j).slots.Perm slots := by
  have hinside := ((Slots.swapAt_perm (w.inside slots) i j).append_left
    (w.before slots)).append_right (w.behind slots)
  rw [w.before_inside_behind] at hinside
  exact hinside

/-! ### After every call -/

/-- **After every call of every run the slots are a rearrangement of the first ones.**
Their number is the same, each slot holds what stood at first in the slot that the
composed transpositions point at, and no value is lost or duplicated. -/
theorem attempts_rearrange (slots : List α) (calls : List Call) (n : Fin calls.length) :
    ∃ attempt, (attempts slots calls)[n.val]? = some attempt ∧
      attempt.slots.length = slots.length ∧
      (∀ k : Fin slots.length, attempt.slots[k.val]? =
        some slots[(transpositions slots.length (calls.take (n + 1))).prod k]) ∧
      attempt.slots.Perm slots := by
  refine ⟨swapAt (run slots (calls.take n)) calls[n].1 calls[n].2, ?_, ?_, fun k => ?_, ?_⟩
  · rw [getElem?_attempts, List.getElem?_eq_getElem n.isLt]
    rfl
  · rw [length_swapAt, length_run]
  · rw [← run_take_succ, getElem?_run rfl]
    exact List.getElem?_eq_getElem _
  · rw [← run_take_succ]
    exact run_perm slots _

end SlotSwap.Slots
