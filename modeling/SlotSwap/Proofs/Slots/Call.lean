import Mathlib.Logic.Equiv.Basic
import SlotSwap.Slots.Run
import SlotSwap.Slots.Window

/-! What one call can do.

A call is refused or it exchanges two slots, and the number of slots alone decides
which: `Apart` is the condition, `swapAt_cases` the four outcomes. Everything that
holds of a run is carried from call to call by the lemmas here, so that nothing
below looks into `swapAt` again. -/
namespace SlotSwap.Slots
open Log Text

/-- The call names two different slots of a list of that length. -/
def Apart (length : Nat) (call : Call) : Prop :=
  call.1 < length ∧ call.2 < length ∧ call.1 ≠ call.2

instance (length : Nat) : DecidablePred (Apart length) := fun call =>
  inferInstanceAs (Decidable (call.1 < length ∧ call.2 < length ∧ call.1 ≠ call.2))

/-- The first position may be outside, then the second; both may name one slot; and
only a call that passes all three checks touches the slots. -/
theorem swapAt_cases (slots : List α) (i j : Nat) :
    (slots.length ≤ i ∧ swapAt slots i j = ⟨.error (.outOfBounds i slots.length), slots, []⟩) ∨
    (i < slots.length ∧ slots.length ≤ j ∧
      swapAt slots i j = ⟨.error (.outOfBounds j slots.length), slots, []⟩) ∨
    (i < slots.length ∧ i = j ∧
      swapAt slots i j = ⟨.error (.aliased (Decimal.ofNat i)), slots, [selfSwapEvent i]⟩) ∨
    (Apart slots.length (i, j) ∧
      swapAt slots i j = ⟨.ok (), (swapAt slots i j).slots, [swappedEvent i j]⟩) := by
  rcases Nat.lt_or_ge i slots.length with hi | hi
  · rcases Nat.lt_or_ge j slots.length with hj | hj
    · by_cases hij : i = j
      · subst hij
        exact .inr (.inr (.inl ⟨hi, rfl, swapAt_same hi⟩))
      · obtain ⟨hresult, hlog⟩ := swapAt_apart hi hj hij
        refine .inr (.inr (.inr ⟨⟨hi, hj, hij⟩, ?_⟩))
        rw [← hresult, ← hlog]
    · exact .inr (.inl ⟨hi, hj, swapAt_right_outside hi hj⟩)
  · exact .inl ⟨hi, swapAt_left_outside j hi⟩

/-- A call succeeds exactly when it names two different slots. -/
theorem result_swapAt_eq_ok_iff {slots : List α} {i j : Nat} :
    (swapAt slots i j).result = .ok () ↔ Apart slots.length (i, j) := by
  rcases swapAt_cases slots i j with ⟨hi, h⟩ | ⟨_, hj, h⟩ | ⟨_, hij, h⟩ | ⟨hapart, h⟩
  · simp [h, Apart, Nat.not_lt.mpr hi]
  · simp [h, Apart, Nat.not_lt.mpr hj]
  · subst hij
    simp [h, Apart]
  · rw [h]
    exact ⟨fun _ => hapart, fun _ => rfl⟩

theorem result_swapAt_of_not_apart {slots : List α} {i j : Nat}
    (hrefused : ¬Apart slots.length (i, j)) : ∃ why, (swapAt slots i j).result = .error why := by
  cases hresult : (swapAt slots i j).result with
  | ok value => exact absurd (result_swapAt_eq_ok_iff.mp hresult) hrefused
  | error why => exact ⟨why, rfl⟩

/-- A refused call leaves the slots as they were. -/
theorem slots_swapAt_of_not_apart {slots : List α} {i j : Nat}
    (hrefused : ¬Apart slots.length (i, j)) : (swapAt slots i j).slots = slots := by
  rcases swapAt_cases slots i j with ⟨_, h⟩ | ⟨_, _, h⟩ | ⟨_, _, h⟩ | ⟨hapart, _⟩
  · rw [h]
  · rw [h]
  · rw [h]
  · exact absurd hapart hrefused

theorem slots_swapAt_of_error {slots : List α} {i j : Nat} {why : Error}
    (h : (swapAt slots i j).result = .error why) : (swapAt slots i j).slots = slots := by
  refine slots_swapAt_of_not_apart fun hapart => ?_
  rw [result_swapAt_eq_ok_iff.mpr hapart] at h
  cases h

/-- A call that is refused inside a window leaves the slots outside as they were, too. -/
theorem Window.slots_swapAt_of_error {w : Window} {slots : List α} {i j : Nat} {why : Error}
    (h : (w.swapAt slots i j).result = .error why) : (w.swapAt slots i j).slots = slots := by
  have hinside : (Slots.swapAt (w.inside slots) i j).slots = w.inside slots :=
    Slots.slots_swapAt_of_error h
  rw [Window.swapAt, hinside]
  exact w.before_inside_behind slots

/-- Two slots that are there are overwritten with each other's value; a slot named twice
is overwritten with its own. -/
theorem slots_swapAt_eq_set {slots : List α} {i j : Nat} {x y : α} (hx : slots[i]? = some x)
    (hy : slots[j]? = some y) : (swapAt slots i j).slots = (slots.set i y).set j x := by
  obtain ⟨hi, hvalue⟩ := List.getElem?_eq_some_iff.mp hx
  obtain ⟨hj, -⟩ := List.getElem?_eq_some_iff.mp hy
  by_cases hij : i = j
  · subst hij
    have hsame : y = x := Option.some.inj (hy.symm.trans hx)
    rw [swapAt_same hi, hsame, List.set_set, ← hvalue, List.set_getElem_self]
  · refine List.ext_getElem? fun k => ?_
    rw [getElem?_swapAt hi hj hij, List.getElem?_set, List.length_set, List.getElem?_set]
    by_cases hkj : j = k
    · rw [if_pos hkj, if_pos hj, if_neg fun hki => hij (hki.symm.trans hkj.symm),
        if_pos hkj.symm, hx]
    · rw [if_neg hkj, if_neg (Ne.symm hkj)]
      by_cases hki : i = k
      · rw [if_pos hki, if_pos hi, if_pos hki.symm, hy]
      · rw [if_neg hki, if_neg (Ne.symm hki)]

/-- Behind a call that is not refused every slot holds what the transposition of the two
positions points at. -/
theorem getElem?_swapAt_swap {slots : List α} {i j : Nat} (h : Apart slots.length (i, j))
    (k : Nat) : (swapAt slots i j).slots[k]? = slots[Equiv.swap i j k]? := by
  rw [getElem?_swapAt h.1 h.2.1 h.2.2, Equiv.swap_apply_def]
  split
  · rfl
  · split
    · rfl
    · rfl

theorem Apart.turned {length i j : Nat} (h : Apart length (j, i)) : Apart length (i, j) :=
  ⟨h.2.1, h.1, h.2.2.symm⟩

/-- The order of the two positions does not matter to the slots. -/
theorem slots_swapAt_comm (slots : List α) (i j : Nat) :
    (swapAt slots i j).slots = (swapAt slots j i).slots := by
  by_cases hapart : Apart slots.length (i, j)
  · refine List.ext_getElem? fun k => ?_
    rw [getElem?_swapAt_swap hapart, getElem?_swapAt_swap hapart.turned, Equiv.swap_comm]
  · rw [slots_swapAt_of_not_apart hapart, slots_swapAt_of_not_apart fun h => hapart h.turned]

/-- The same call again undoes it. -/
theorem swapAt_swapAt (slots : List α) (i j : Nat) :
    (swapAt (swapAt slots i j).slots i j).slots = slots := by
  by_cases hapart : Apart slots.length (i, j)
  · have hagain : Apart (swapAt slots i j).slots.length (i, j) := by
      rw [length_swapAt]
      exact hapart
    refine List.ext_getElem? fun k => ?_
    rw [getElem?_swapAt_swap hagain, getElem?_swapAt_swap hapart]
    exact congrArg (slots[·]?) (DFunLike.congr_fun (Equiv.swap_swap i j) k)
  · rw [slots_swapAt_of_not_apart hapart, slots_swapAt_of_not_apart hapart]

end SlotSwap.Slots
