import SlotSwap.Slots.Swap

/-! Swaps inside a window.

A window is a run of neighbouring slots. A swap inside it counts positions from the
window's first slot and knows no slot outside: what lies before and behind the
window is put back as it was. -/
namespace SlotSwap.Slots

/-- The slots from `first` up to, and not including, `last`. -/
structure Window where
  first : Nat
  last : Nat
  first_le_last : first ≤ last

namespace Window

def before (w : Window) (slots : List α) : List α := slots.take w.first

def inside (w : Window) (slots : List α) : List α := (slots.take w.last).drop w.first

def behind (w : Window) (slots : List α) : List α := slots.drop w.last

/-- The three parts make up the whole. -/
theorem before_inside_behind (w : Window) (slots : List α) :
    w.before slots ++ w.inside slots ++ w.behind slots = slots := by
  have hbefore : w.before slots = (slots.take w.last).take w.first := by
    rw [before, List.take_take, Nat.min_eq_left w.first_le_last]
  rw [hbefore, inside, List.take_append_drop, behind, List.take_append_drop]

theorem length_inside (w : Window) (slots : List α) (h : w.last ≤ slots.length) :
    (w.inside slots).length = w.last - w.first := by
  simp only [inside, List.length_drop, List.length_take]
  omega

/-- Exchanges slots `i` and `j` of the window. -/
def swapAt (w : Window) (slots : List α) (i j : Nat) : Attempt α :=
  let attempt := Slots.swapAt (w.inside slots) i j
  {attempt with slots := w.before slots ++ attempt.slots ++ w.behind slots}

theorem length_swapAt (w : Window) (slots : List α) (i j : Nat) :
    (w.swapAt slots i j).slots.length = slots.length := by
  have := congrArg List.length (w.before_inside_behind slots)
  simpa only [swapAt, List.length_append, Slots.length_swapAt] using this

end SlotSwap.Slots.Window
