import SlotSwap.Log.Event
import SlotSwap.Slots.Error

/-! The swap.

Two places exchange what they hold. When the places are known to differ nothing
can go wrong: `swap` is the exchange in place and `crossed` the one that hands
both values back the other way round. When they are slots of a list named by
position, `swapAt` first checks both positions against the number of slots and
then against each other, and a refused call changes nothing. `getElem?_swapAt` says
what every slot holds after a call that is not refused. -/
namespace SlotSwap.Slots
open Log Text

/-! ### Two places that are known to differ -/

/-- Exchanges what two places hold: the first value is held aside while the second
takes its place. -/
def swap (places : α × α) : α × α :=
  let held := places.1
  let places := (places.2, places.2)
  (places.1, held)

/-- The two values the other way round, for a caller who puts them back. -/
def crossed (first second : α) : α × α := (second, first)

/-- What the two places hold after each of `n` swaps. -/
def swaps : Nat → α × α → List (α × α)
  | 0, _ => []
  | n + 1, places => swap places :: swaps n (swap places)

theorem swap_eq (a b : α) : swap (a, b) = (b, a) := rfl

/-! ### Two slots of a list -/

/-- What a call leaves: its result, the slots afterwards and the events it emitted. -/
structure Attempt (α : Type u) where
  result : Except Error Unit
  slots : List α
  log : List Event

def swappedEvent (i j : Nat) : Event :=
  ⟨.trace, "exchanged slots", [("i", Decimal.ofNat i), ("j", Decimal.ofNat j)]⟩

def selfSwapEvent (index : Nat) : Event :=
  ⟨.warn, "rejected self-swap", [("index", Decimal.ofNat index)]⟩

/-- Exchanges slot `lo` with the later slot `hi`: the list is cut in front of `hi`,
so that each slot lies in a part of its own. -/
def swapApart (slots : List α) (lo hi : Nat) (lo_lt : lo < hi) (hi_lt : hi < slots.length) :
    List α :=
  let head := slots.take hi
  let tail := slots.drop hi
  let pair := swap
    (head.get ⟨lo, by simp only [head, List.length_take]; omega⟩,
      tail.get ⟨0, by simp only [tail, List.length_drop]; omega⟩)
  head.set lo pair.1 ++ tail.set 0 pair.2

/-- Exchanges slots `i` and `j`. The first position past the end is reported, and only
then two equal positions; a refused call leaves the slots as they were. -/
def swapAt (slots : List α) (i j : Nat) : Attempt α :=
  if hi : slots.length ≤ i then ⟨.error (.outOfBounds i slots.length), slots, []⟩
  else if hj : slots.length ≤ j then ⟨.error (.outOfBounds j slots.length), slots, []⟩
  else if hij : i = j then ⟨.error (.aliased (Decimal.ofNat i)), slots, [selfSwapEvent i]⟩
  else ⟨.ok (), swapApart slots (min i j) (max i j) (by omega) (by omega), [swappedEvent i j]⟩

/-! ### What one call does -/

theorem swapAt_left_outside {slots : List α} {i : Nat} (j : Nat) (h : slots.length ≤ i) :
    swapAt slots i j = ⟨.error (.outOfBounds i slots.length), slots, []⟩ := by
  simp [swapAt, h]

theorem swapAt_right_outside {slots : List α} {i j : Nat} (hi : i < slots.length)
    (hj : slots.length ≤ j) :
    swapAt slots i j = ⟨.error (.outOfBounds j slots.length), slots, []⟩ := by
  simp [swapAt, Nat.not_le.mpr hi, hj]

theorem swapAt_same {slots : List α} {i : Nat} (h : i < slots.length) :
    swapAt slots i i = ⟨.error (.aliased (Decimal.ofNat i)), slots, [selfSwapEvent i]⟩ := by
  simp [swapAt, Nat.not_le.mpr h]

theorem swapApart_eq (slots : List α) (lo hi : Nat) (lo_lt : lo < hi) (hi_lt : hi < slots.length) :
    swapApart slots lo hi lo_lt hi_lt =
      (slots.take hi).set lo slots[hi] ++ (slots.drop hi).set 0 slots[lo] := by
  simp [swapApart, swap_eq]

/-- The two slots hold each other's old value and every other slot its own. -/
theorem getElem?_swapApart (slots : List α) (lo hi : Nat) (lo_lt : lo < hi)
    (hi_lt : hi < slots.length) (k : Nat) :
    (swapApart slots lo hi lo_lt hi_lt)[k]? =
      if k = lo then slots[hi]? else if k = hi then slots[lo]? else slots[k]? := by
  have hhead : (slots.take hi).length = hi := by
    rw [List.length_take]
    omega
  have htail : 0 < (slots.drop hi).length := by
    rw [List.length_drop]
    omega
  rw [swapApart_eq, List.getElem?_append, List.length_set, hhead, List.getElem?_set,
    List.getElem?_set, hhead]
  by_cases hk : k < hi
  · rw [if_pos hk, if_pos lo_lt, if_neg (Nat.ne_of_lt hk)]
    by_cases hl : k = lo
    · rw [if_pos hl.symm, if_pos hl, List.getElem?_eq_getElem hi_lt]
    · rw [if_neg (Ne.symm hl), if_neg hl, List.getElem?_take_of_lt hk]
  · rw [if_neg hk, if_pos htail, if_neg (by omega : ¬k = lo)]
    by_cases hl : k = hi
    · rw [if_pos (by omega), if_pos hl, List.getElem?_eq_getElem (by omega)]
    · rw [if_neg (by omega), if_neg hl, List.getElem?_drop]
      congr 1
      omega

theorem length_swapApart (slots : List α) (lo hi : Nat) (lo_lt : lo < hi)
    (hi_lt : hi < slots.length) : (swapApart slots lo hi lo_lt hi_lt).length = slots.length := by
  simp only [swapApart, List.length_append, List.length_set, List.length_take, List.length_drop]
  omega

theorem swapAt_apart {slots : List α} {i j : Nat} (hi : i < slots.length)
    (hj : j < slots.length) (hij : i ≠ j) :
    (swapAt slots i j).result = .ok () ∧ (swapAt slots i j).log = [swappedEvent i j] := by
  rw [swapAt, dif_neg (Nat.not_le.mpr hi), dif_neg (Nat.not_le.mpr hj), dif_neg hij]
  exact ⟨rfl, rfl⟩

/-- A call on two different slots exchanges them. -/
theorem getElem?_swapAt {slots : List α} {i j : Nat} (hi : i < slots.length)
    (hj : j < slots.length) (hij : i ≠ j) (k : Nat) :
    (swapAt slots i j).slots[k]? =
      if k = i then slots[j]? else if k = j then slots[i]? else slots[k]? := by
  rw [swapAt, dif_neg (Nat.not_le.mpr hi), dif_neg (Nat.not_le.mpr hj), dif_neg hij,
    getElem?_swapApart]
  rcases Nat.lt_or_gt_of_ne hij with h | h
  · rw [Nat.min_eq_left (Nat.le_of_lt h), Nat.max_eq_right (Nat.le_of_lt h)]
  · rw [Nat.min_eq_right (Nat.le_of_lt h), Nat.max_eq_left (Nat.le_of_lt h)]
    by_cases hki : k = i
    · rw [if_neg (by omega), if_pos hki, if_pos hki]
    · simp only [hki, if_false]

/-- No call adds or removes a slot. -/
theorem length_swapAt (slots : List α) (i j : Nat) :
    (swapAt slots i j).slots.length = slots.length := by
  unfold swapAt
  split
  · rfl
  · split
    · rfl
    · split
      · rfl
      · exact length_swapApart slots _ _ (by omega) (by omega)

end SlotSwap.Slots
