import SlotSwap.Proofs.Slots.Call

/-! What a call owes its caller.

`Contract` says it in terms of the slots before and after the call and of the two positions
as they were given, without a word on how the list is cut. There is one clause for each
outcome, and the clauses leave the call no choice: `contract_iff`. The cut is where a call
could go wrong. `swapAt?` makes the same call with steps that may fail, each when it reaches
past the end of the list or of a part of it; `swapAt?_eq_some` says that none ever does. -/
namespace SlotSwap.Slots
open Log Text

/-! ### Steps that may fail -/

/-- The parts of a list in front of a position and from it on; there are none when the
position is past the end. -/
def cut? (slots : List α) (position : Nat) : Option (List α × List α) :=
  if position ≤ slots.length then some (slots.take position, slots.drop position) else none

/-- Exchanges slot `lo` of the part in front of `hi` with the first slot of the other part,
if both slots are there. -/
def swapApart? (slots : List α) (lo hi : Nat) : Option (List α) := do
  let (head, tail) ← cut? slots hi
  let pair := swap (← head[lo]?, ← tail[0]?)
  return head.set lo pair.1 ++ tail.set 0 pair.2

/-- The call with steps that may fail: there is no attempt when one of them does. -/
def swapAt? (slots : List α) (i j : Nat) : Option (Attempt α) :=
  match [i, j].find? fun index => slots.length ≤ index with
  | some index => some ⟨.error (.outOfBounds index slots.length), slots, []⟩
  | none =>
    if i = j then some ⟨.error (.aliased (Decimal.ofNat i)), slots, [selfSwapEvent i]⟩
    else (swapApart? slots (min i j) (max i j)).map (⟨.ok (), ·, [swappedEvent i j]⟩)

/-- Behind the cut in front of a slot that is there both slots are reached. -/
theorem swapApart?_eq_some (slots : List α) (lo hi : Nat) (lo_lt : lo < hi)
    (hi_lt : hi < slots.length) :
    swapApart? slots lo hi = some (swapApart slots lo hi lo_lt hi_lt) := by
  have hcut : cut? slots hi = some (slots.take hi, slots.drop hi) :=
    if_pos (Nat.le_of_lt hi_lt)
  have hhead : (slots.take hi)[lo]? = some slots[lo] := by
    rw [List.getElem?_take_of_lt lo_lt, List.getElem?_eq_getElem]
  have htail : (slots.drop hi)[0]? = some slots[hi] := by
    rw [List.getElem?_drop, Nat.add_zero, List.getElem?_eq_getElem]
  simp [swapApart?, hcut, hhead, htail, swap_eq, swapApart_eq]

/-- Every step succeeds, wherever the two positions point. -/
theorem swapAt?_eq_some (slots : List α) (i j : Nat) :
    swapAt? slots i j = some (swapAt slots i j) := by
  rcases Nat.lt_or_ge i slots.length with hi | hi
  · rcases Nat.lt_or_ge j slots.length with hj | hj
    · have hinside : ([i, j].find? fun index => slots.length ≤ index) = none := by
        simp [hi, hj]
      rw [swapAt?, hinside]
      by_cases hij : i = j
      · subst hij
        rw [swapAt_same hi]
        exact if_pos rfl
      · have hapart := swapApart?_eq_some slots (min i j) (max i j) (by omega) (by omega)
        simp [swapAt, hij, hapart, Nat.not_le.mpr hi, Nat.not_le.mpr hj]
    · rw [swapAt_right_outside hi hj]
      simp [swapAt?, Nat.not_le.mpr hi, hj]
  · rw [swapAt_left_outside j hi]
    simp [swapAt?, hi]

/-! ### The contract -/

/-- The values of slots `i` and `j` have traded places and no other value has moved. -/
structure Traded (slots : List α) (i j : Nat) (after : List α) : Prop where
  length : after.length = slots.length
  first : after[i]? = slots[j]?
  second : after[j]? = slots[i]?
  others : ∀ k, k ≠ i → k ≠ j → after[k]? = slots[k]?

/-- What a call on slots `i` and `j` may come to. -/
inductive Contract (slots : List α) (i j : Nat) : Attempt α → Prop where
  /-- Two different slots trade their values, and one event tells of the two positions. -/
  | traded {after : List α} (hi : i < slots.length) (hj : j < slots.length) (hij : i ≠ j)
      (h : Traded slots i j after) :
      Contract slots i j ⟨.ok (), after,
        [⟨.trace, "exchanged slots", [("i", Decimal.ofNat i), ("j", Decimal.ofNat j)]⟩]⟩
  /-- The first position is reported when it is past the end, whatever the second is. -/
  | firstOutside (hi : slots.length ≤ i) :
      Contract slots i j ⟨.error (.outOfBounds i slots.length), slots, []⟩
  | secondOutside (hi : i < slots.length) (hj : slots.length ≤ j) :
      Contract slots i j ⟨.error (.outOfBounds j slots.length), slots, []⟩
  /-- A slot that is there cannot be exchanged with itself; a warning tells of it. -/
  | same (hi : i < slots.length) (hij : i = j) :
      Contract slots i j ⟨.error (.aliased (Decimal.ofNat i)), slots,
        [⟨.warn, "rejected self-swap", [("index", Decimal.ofNat i)]⟩]⟩

section Contract
variable {slots : List α} {i j : Nat}

theorem traded_swapAt (h : Apart slots.length (i, j)) :
    Traded slots i j (swapAt slots i j).slots := by
  obtain ⟨hi, hj, hij⟩ := h
  have hslot := getElem?_swapAt hi hj hij
  refine ⟨length_swapAt slots i j, ?_, ?_, fun k hki hkj => ?_⟩
  · rw [hslot, if_pos rfl]
  · rw [hslot, if_neg hij.symm, if_pos rfl]
  · rw [hslot, if_neg hki, if_neg hkj]

/-- Where the values went says what every slot holds. -/
theorem Traded.eq {after other : List α} (h : Traded slots i j after)
    (hother : Traded slots i j other) : after = other := by
  refine List.ext_getElem? fun k => ?_
  by_cases hki : k = i
  · subst hki
    rw [h.first, hother.first]
  · by_cases hkj : k = j
    · subst hkj
      rw [h.second, hother.second]
    · rw [h.others k hki hkj, hother.others k hki hkj]

theorem contract_swapAt (slots : List α) (i j : Nat) :
    Contract slots i j (swapAt slots i j) := by
  rcases swapAt_cases slots i j with ⟨hi, h⟩ | ⟨hi, hj, h⟩ | ⟨hi, hij, h⟩ | ⟨hapart, h⟩
  · rw [h]
    exact .firstOutside hi
  · rw [h]
    exact .secondOutside hi hj
  · rw [h]
    exact .same hi hij
  · rw [h]
    exact .traded hapart.1 hapart.2.1 hapart.2.2 (traded_swapAt hapart)

/-- The contract leaves a call no choice. -/
theorem contract_iff {attempt : Attempt α} :
    Contract slots i j attempt ↔ attempt = swapAt slots i j := by
  refine ⟨fun h => ?_, ?_⟩
  · cases h with
    | traded hi hj hij htraded =>
      obtain ⟨hresult, hlog⟩ := swapAt_apart hi hj hij
      rw [htraded.eq (traded_swapAt ⟨hi, hj, hij⟩)]
      show _ = Attempt.mk (swapAt slots i j).result (swapAt slots i j).slots (swapAt slots i j).log
      rw [hresult, hlog]
      rfl
    | firstOutside hi => exact (swapAt_left_outside j hi).symm
    | secondOutside hi hj => exact (swapAt_right_outside hi hj).symm
    | same hi hij =>
      subst hij
      exact (swapAt_same hi).symm
  · rintro rfl
    exact contract_swapAt slots i j

end Contract

/-- **The contract of a call.** No step of it reaches outside the list; it ends in what the
contract says and in nothing else; and it succeeds exactly when both slots are there and
are not the same. -/
theorem swapAt_keeps_contract (slots : List α) (i j : Nat) :
    swapAt? slots i j = some (swapAt slots i j) ∧
      (∀ attempt, Contract slots i j attempt ↔ attempt = swapAt slots i j) ∧
      ((swapAt slots i j).result = .ok () ↔ i < slots.length ∧ j < slots.length ∧ i ≠ j) :=
  ⟨swapAt?_eq_some slots i j, fun _ => contract_iff, result_swapAt_eq_ok_iff⟩

end SlotSwap.Slots
