import SlotSwap.Proofs.Slots.Call

/-! Calls inside a window.

Seen from inside, a window is a list of its own: `Window.swapAt_append` says that a call
made there neither sees nor touches what lies in front of it and behind it. Seen from
outside it is a change of numbering: `Window.slots_swapAt` says that a call on two slots
of the window leaves what the same call leaves when its positions are counted from the
first slot of the whole list. Only a refusal tells the two apart: it counts as its caller
does, and a position past the window is refused even where the list goes on
(`Window.swapAt_local`). -/
namespace SlotSwap.Slots
open Text

/-! ### A list in three parts -/

section Parts
variable (before behind : List α) {inside : List α} {k : Nat}

theorem getElem?_between (hk : k < inside.length) :
    (before ++ inside ++ behind)[before.length + k]? = inside[k]? := by
  rw [List.append_assoc, List.getElem?_append_right (Nat.le_add_right ..),
    Nat.add_sub_cancel_left, List.getElem?_append_left hk]

theorem set_between (hk : k < inside.length) (x : α) :
    (before ++ inside ++ behind).set (before.length + k) x =
      before ++ inside.set k x ++ behind := by
  rw [List.append_assoc, List.set_append_right _ _ (Nat.le_add_right ..),
    Nat.add_sub_cancel_left, List.set_append_left _ _ hk, List.append_assoc]

/-- A call on two slots of the middle part moves nothing else. -/
theorem slots_swapAt_between {i j : Nat} (hi : i < inside.length) (hj : j < inside.length) :
    (swapAt (before ++ inside ++ behind) (before.length + i) (before.length + j)).slots =
      before ++ (swapAt inside i j).slots ++ behind := by
  have hx := List.getElem?_eq_getElem hi
  have hy := List.getElem?_eq_getElem hj
  rw [slots_swapAt_eq_set ((getElem?_between before behind hi).trans hx)
      ((getElem?_between before behind hj).trans hy), slots_swapAt_eq_set hx hy,
    set_between before behind hi, set_between before behind (by rwa [List.length_set])]

/-- Another middle part of the same length leaves the slots around it alone. -/
theorem getElem?_around {other : List α} (hlength : other.length = inside.length)
    (hk : k < before.length ∨ before.length + inside.length ≤ k) :
    (before ++ other ++ behind)[k]? = (before ++ inside ++ behind)[k]? := by
  rcases hk with hk | hk
  · rw [List.append_assoc, List.append_assoc, List.getElem?_append_left hk,
      List.getElem?_append_left hk]
  · have hsame : (before ++ other).length = (before ++ inside).length := by simp [hlength]
    have hbehind : (before ++ inside).length ≤ k := by simpa using hk
    rw [List.getElem?_append_right (hsame ▸ hbehind), List.getElem?_append_right hbehind, hsame]

end Parts

/-! ### A window -/

namespace Window

/-- Wherever the positions point, a call inside a window is a call on the window's slots,
with the rest of the list around them. -/
theorem swapAt_append {w : Window} (before inside behind : List α)
    (hfirst : before.length = w.first) (hlast : (before ++ inside).length = w.last) (i j : Nat) :
    w.swapAt (before ++ inside ++ behind) i j =
      ⟨(Slots.swapAt inside i j).result, before ++ (Slots.swapAt inside i j).slots ++ behind,
        (Slots.swapAt inside i j).log⟩ := by
  have hbefore : w.before (before ++ inside ++ behind) = before := by
    rw [Window.before, List.append_assoc, List.take_left' hfirst]
  have hinside : w.inside (before ++ inside ++ behind) = inside := by
    rw [Window.inside, List.take_left' hlast, List.drop_left' hfirst]
  have hbehind : w.behind (before ++ inside ++ behind) = behind := by
    rw [Window.behind, List.drop_left' hlast]
  rw [Window.swapAt, hbefore, hinside, hbehind]

theorem length_before {w : Window} {slots : List α} (hlast : w.last ≤ slots.length) :
    (w.before slots).length = w.first := by
  rw [Window.before, List.length_take]
  exact Nat.min_eq_left (Nat.le_trans w.first_le_last hlast)

/-- A call on two slots of a window leaves what the call at the shifted positions leaves. -/
theorem slots_swapAt {w : Window} {slots : List α} (hlast : w.last ≤ slots.length) {i j : Nat}
    (hi : w.first + i < w.last) (hj : w.first + j < w.last) :
    (w.swapAt slots i j).slots = (Slots.swapAt slots (w.first + i) (w.first + j)).slots := by
  have hlength := w.length_inside slots hlast
  have hbefore := length_before hlast
  have hmoved := slots_swapAt_between (w.before slots) (w.behind slots)
    (show i < (w.inside slots).length by omega) (show j < (w.inside slots).length by omega)
  rw [w.before_inside_behind, hbefore] at hmoved
  exact hmoved.symm

/-! ### What a call inside a window can do -/

section Local
variable {w : Window} {slots : List α} {i j : Nat}

theorem getElem?_swapAt_outside (hlast : w.last ≤ slots.length) {k : Nat}
    (hk : k < w.first ∨ w.last ≤ k) : (w.swapAt slots i j).slots[k]? = slots[k]? := by
  have hfirst := w.first_le_last
  have hparts : k < (w.before slots).length ∨
      (w.before slots).length + (w.inside slots).length ≤ k := by
    rw [length_before hlast, w.length_inside slots hlast]
    omega
  have haround := getElem?_around (w.before slots) (w.behind slots)
    (Slots.length_swapAt (w.inside slots) i j) hparts
  rw [w.before_inside_behind] at haround
  exact haround

/-- A position past the window is reported as the window counts, the first one if both
are. -/
theorem swapAt_past (hlast : w.last ≤ slots.length)
    (h : w.last - w.first ≤ i ∨ w.last - w.first ≤ j) :
    w.swapAt slots i j =
      ⟨.error (.outOfBounds (if w.last - w.first ≤ i then i else j) (w.last - w.first)),
        slots, []⟩ := by
  have hlength := w.length_inside slots hlast
  have hwhole := w.before_inside_behind slots
  by_cases hi : w.last - w.first ≤ i
  · have hcall := swapAt_left_outside j (show (w.inside slots).length ≤ i by omega)
    simp only [Window.swapAt, hcall, hwhole, hlength, if_pos hi]
  · have hcall := swapAt_right_outside (show i < (w.inside slots).length by omega)
      (show (w.inside slots).length ≤ j by omega)
    simp only [Window.swapAt, hcall, hwhole, hlength, if_neg hi]

theorem result_swapAt_apart (hlast : w.last ≤ slots.length) (hi : i < w.last - w.first)
    (hj : j < w.last - w.first) (hij : i ≠ j) :
    (w.swapAt slots i j).result = .ok () ∧
      (Slots.swapAt slots (w.first + i) (w.first + j)).result = .ok () := by
  have hlength := w.length_inside slots hlast
  have hinside : Apart (w.inside slots).length (i, j) :=
    ⟨by omega, by omega, hij⟩
  have hwhole : Apart slots.length (w.first + i, w.first + j) :=
    ⟨by omega, by omega, fun hsame => hij (Nat.add_left_cancel hsame)⟩
  exact ⟨result_swapAt_eq_ok_iff.mpr hinside, result_swapAt_eq_ok_iff.mpr hwhole⟩

/-- A slot named twice is reported by the position that the caller gave. -/
theorem result_swapAt_same (hlast : w.last ≤ slots.length) (hi : i < w.last - w.first) :
    (w.swapAt slots i i).result = .error (.aliased (Decimal.ofNat i)) ∧
      (Slots.swapAt slots (w.first + i) (w.first + i)).result =
        .error (.aliased (Decimal.ofNat (w.first + i))) := by
  have hlength := w.length_inside slots hlast
  have hinside := swapAt_same (show i < (w.inside slots).length by omega)
  have hwhole := swapAt_same (show w.first + i < slots.length by omega)
  exact ⟨congrArg Attempt.result hinside, congrArg Attempt.result hwhole⟩

/-- **A call inside a window is local and agrees with the whole list.** No slot outside
changes, whatever the positions. Two positions inside the window do what they do to the
whole list when they are counted from its first slot, and with the same success; a slot
named twice is refused under the number it was given. A position past the window is
refused, even one that the list would have room for, and then nothing changes. -/
theorem swapAt_local (hlast : w.last ≤ slots.length) (i j : Nat) :
    (∀ k, k < w.first ∨ w.last ≤ k → (w.swapAt slots i j).slots[k]? = slots[k]?) ∧
      (i < w.last - w.first → j < w.last - w.first →
        (w.swapAt slots i j).slots = (Slots.swapAt slots (w.first + i) (w.first + j)).slots ∧
          (i ≠ j → (w.swapAt slots i j).result = .ok () ∧
            (Slots.swapAt slots (w.first + i) (w.first + j)).result = .ok ()) ∧
          (i = j → (w.swapAt slots i j).result = .error (.aliased (Decimal.ofNat i)) ∧
            (Slots.swapAt slots (w.first + i) (w.first + j)).result =
              .error (.aliased (Decimal.ofNat (w.first + i))))) ∧
      (w.last - w.first ≤ i ∨ w.last - w.first ≤ j →
        w.swapAt slots i j =
          ⟨.error (.outOfBounds (if w.last - w.first ≤ i then i else j) (w.last - w.first)),
            slots, []⟩) := by
  refine ⟨fun k hk => getElem?_swapAt_outside hlast hk, fun hi hj => ⟨?_, ?_, ?_⟩,
    swapAt_past hlast⟩
  · exact slots_swapAt hlast (by omega) (by omega)
  · exact result_swapAt_apart hlast hi hj
  · rintro rfl
    exact result_swapAt_same hlast hi

/-- A window of two slots: a call inside it, a slot named twice, and a position behind its
last slot that is not behind the last slot of the list. -/
theorem swapAt_local_inner :
    let w : Window := ⟨1, 3, by decide⟩
    let slots := ['a', 'b', 'c', 'd', 'e']
    w.last ≤ slots.length ∧
      (w.swapAt slots 1 0).slots = (Slots.swapAt slots 2 1).slots ∧
      (w.swapAt slots 1 0).slots[3]? = some 'd' ∧
      (w.swapAt slots 1 0).result = .ok () ∧
      (w.swapAt slots 1 1).result = .error (.aliased (Decimal.ofNat 1)) ∧
      (Slots.swapAt slots 2 2).result = .error (.aliased (Decimal.ofNat 2)) ∧
      1 + 2 < slots.length ∧
      w.swapAt slots 0 2 = ⟨.error (.outOfBounds 2 2), slots, []⟩ := by
  intro w slots
  have hlast : w.last ≤ slots.length := by decide
  obtain ⟨houtside, hinside, -⟩ := swapAt_local hlast 1 0
  obtain ⟨hslots, happart, -⟩ := hinside (by decide) (by decide)
  obtain ⟨-, -, hsame⟩ := (swapAt_local hlast 1 1).2.1 (by decide) (by decide)
  exact ⟨hlast, hslots, houtside 3 (by decide), (happart (by decide)).1, (hsame rfl).1,
    (hsame rfl).2, by decide, (swapAt_local hlast 0 2).2.2 (by decide)⟩

end Local

end SlotSwap.Slots.Window
