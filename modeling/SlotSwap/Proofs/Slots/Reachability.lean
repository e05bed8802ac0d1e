import SlotSwap.Proofs.Slots.Journal
import SlotSwap.Proofs.Slots.Permutation
import SlotSwap.Proofs.Slots.Window

/-! What calls can reach.

Calls only rearrange the slots, and there is no rearrangement that they do not reach.
`route` goes through the slots from first to last: one that holds what it should is passed
over, any other is exchanged with the next one behind it that holds the wanted value. Each
exchange settles a slot for good and the last slot is settled by the others, so there are
fewer calls than slots; and no call names one slot twice, so none is refused. -/
namespace SlotSwap.Slots

/-! ### A route -/

/-- The calls that lead from `slots` to `target`, behind `settled` slots that are not
touched again. -/
def routeFrom [DecidableEq α] (settled : Nat) : (slots target : List α) → List Call
  | value :: slots, wanted :: target =>
    if value = wanted then routeFrom (settled + 1) slots target
    else
      let index := slots.idxOf wanted
      (settled, settled + (index + 1)) :: routeFrom (settled + 1) (slots.set index value) target
  | _, _ => []

/-- The calls that lead from `slots` to `target`. -/
def route [DecidableEq α] (slots target : List α) : List Call := routeFrom 0 slots target

/-! ### One call -/

section Fetch
variable {value wanted : α} {slots : List α} {index : Nat}

theorem slots_swapAt_head (value : α) (hwanted : slots[index]? = some wanted) :
    (swapAt (value :: slots) 0 (index + 1)).slots = wanted :: slots.set index value :=
  slots_swapAt_eq_set rfl hwanted

/-- A call fetches the value wanted in the next slot. -/
theorem slots_fetch (settled : List α) (value : α) (hwanted : slots[index]? = some wanted) :
    (swapAt (settled ++ value :: slots) settled.length (settled.length + (index + 1))).slots =
      settled ++ wanted :: slots.set index value := by
  have hindex : index + 1 < (value :: slots).length :=
    Nat.succ_lt_succ (List.getElem?_eq_some_iff.mp hwanted).1
  have hmoved := slots_swapAt_between settled [] (Nat.zero_lt_of_lt hindex) hindex
  rw [slots_swapAt_head value hwanted, List.append_nil, List.append_nil] at hmoved
  exact hmoved

/-- Once the wanted value is fetched, the slots behind it hold what the rest wants. -/
theorem perm_of_fetch {target : List α} (hwanted : slots[index]? = some wanted)
    (h : (wanted :: target).Perm (value :: slots)) : target.Perm (slots.set index value) := by
  have hfetched := swapAt_perm (value :: slots) 0 (index + 1)
  rw [slots_swapAt_head value hwanted] at hfetched
  exact (h.trans hfetched.symm).cons_inv

end Fetch

/-! ### What a route owes -/

/-- Behind the slots that are settled, the calls lead from `slots` to `target`. -/
structure Leads (settled slots target : List α) (calls : List Call) : Prop where
  arrives : run (settled ++ slots) calls = settled ++ target
  apart : ∀ call ∈ calls, Apart (settled ++ slots).length call
  short : calls.length ≤ slots.length - 1

namespace Leads
variable {settled slots target : List α} {calls : List Call}

/-- A slot that holds what it should needs no call. -/
theorem pass {value : α} (h : Leads (settled ++ [value]) slots target calls) :
    Leads settled (value :: slots) (value :: target) calls where
  arrives := by simpa using h.arrives
  apart := by simpa using h.apart
  short := h.short.trans (Nat.sub_le_sub_right (Nat.le_succ _) 1)

/-- A slot that holds another value fetches the wanted one, which must be there. -/
theorem fetch {value wanted : α} {index : Nat} (hwanted : slots[index]? = some wanted)
    (h : Leads (settled ++ [wanted]) (slots.set index value) target calls) :
    Leads settled (value :: slots) (wanted :: target)
      ((settled.length, settled.length + (index + 1)) :: calls) where
  arrives := by
    rw [run_cons, slots_fetch settled value hwanted]
    simpa using h.arrives
  apart := by
    obtain ⟨hindex, -⟩ := List.getElem?_eq_some_iff.mp hwanted
    intro call hcall
    rcases List.mem_cons.mp hcall with rfl | hcall
    · simp only [Apart, List.length_append, List.length_cons]
      omega
    · simpa using h.apart call hcall
  short := by
    obtain ⟨hindex, -⟩ := List.getElem?_eq_some_iff.mp hwanted
    have hshort := h.short
    rw [List.length_set] at hshort
    rw [List.length_cons, List.length_cons]
    omega

end Leads

/-! ### Every rearrangement -/

/-- The route to a rearrangement arrives. The induction follows the target; what the slots
behind the settled ones hold changes with every call, so they vary with it. -/
theorem routeFrom_leads [DecidableEq α] (settled : List α) {slots target : List α}
    (h : target.Perm slots) :
    Leads settled slots target (routeFrom settled.length slots target) := by
  induction target generalizing settled slots with
  | nil =>
    obtain rfl := List.nil_perm.mp h
    exact ⟨rfl, by simp [routeFrom], Nat.zero_le _⟩
  | cons wanted target ih =>
    cases slots with
    | nil => exact absurd h.symm (List.not_perm_nil_cons _ _)
    | cons value slots =>
      by_cases hvalue : value = wanted
      · subst hvalue
        have hrest := ih (settled ++ [value]) h.cons_inv
        rw [List.length_append, List.length_singleton] at hrest
        rw [routeFrom, if_pos rfl]
        exact hrest.pass
      · have hmem : wanted ∈ slots :=
          (List.mem_cons.mp (h.mem_iff.mp (List.mem_cons_self ..))).resolve_left (Ne.symm hvalue)
        have hwanted := List.getElem?_idxOf hmem
        have hrest := ih (settled ++ [wanted]) (perm_of_fetch hwanted h)
        rw [List.length_append, List.length_singleton] at hrest
        rw [routeFrom, if_neg hvalue]
        exact hrest.fetch hwanted

example : route ['a', 'b', 'a', 'c'] ['c', 'a', 'a', 'b'] =
    [(0, 3), (1, 2), (2, 3)] := by decide

/-- **The slots can be brought into every order of their values, and into nothing else**;
and into each by fewer calls than there are slots, all of which succeed. -/
theorem reachable_iff_perm (slots target : List α) :
    ((∃ calls, run slots calls = target) ↔ target.Perm slots) ∧
      (target.Perm slots ↔ ∃ calls, run slots calls = target ∧
        results slots calls = List.replicate calls.length (.ok ()) ∧
        calls.length ≤ slots.length - 1) := by
  classical
  have hperm : ∀ calls, run slots calls = target → target.Perm slots := by
    rintro calls rfl
    exact run_perm slots calls
  have hroute : target.Perm slots → Leads [] slots target (route slots target) :=
    routeFrom_leads []
  refine ⟨⟨fun ⟨calls, hrun⟩ => hperm calls hrun, fun h => ⟨_, (hroute h).arrives⟩⟩,
    fun h => ⟨_, (hroute h).arrives, results_of_apart (hroute h).apart, (hroute h).short⟩,
    fun ⟨calls, hrun, _⟩ => hperm calls hrun⟩

end SlotSwap.Slots
