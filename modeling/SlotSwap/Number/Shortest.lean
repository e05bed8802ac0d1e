import SlotSwap.Number.Binary

/-! The shortest decimal that reads back.

The reals that round to a double form an interval around it, ends included when its
significand is even. On decimal grids from the coarsest on, the two grid points
next to the double are tried; the first grid with a point in the interval gives the
fewest digits, and of two such points the nearer is taken. What happens to two
equally near ones is for the caller to say. -/
namespace SlotSwap.Number

/-- The number `coefficient * 10 ^ exponent`. -/
structure Scaled where
  coefficient : Nat
  exponent : Int
deriving DecidableEq, Repr

/-- Which of two equally near numbers is taken. -/
inductive Tie where
  | toEven
  | upward
deriving DecidableEq, Repr

/-! ### The interval

It is measured in quarters of a step, so that both its ends are whole numbers. -/

structure Interval where
  value : Nat
  low : Nat
  high : Nat
  closed : Bool
deriving Repr

/-- The reals that round to a double of so many steps. At a power of two the neighbour
below is only half as far as the one above. -/
def interval (steps : Nat) : Interval :=
  let spacing := double.spacing steps
  let gap := Nat.pow 2 spacing
  let narrow := 0 < spacing && steps == Nat.pow 2 steps.log2
  { value := 4 * steps
    low := 4 * steps - if narrow then gap else 2 * gap
    high := 4 * steps + 2 * gap
    closed := steps / gap % 2 == 0 }

/-- A ratio of quarter steps lies in the interval. -/
def Interval.contains (i : Interval) (num den : Nat) : Bool :=
  if i.closed then i.low * den ≤ num && num ≤ i.high * den
  else i.low * den < num && num < i.high * den

/-! ### Grids -/

/-- A grid unit `10 ^ exponent` as a ratio of quarter steps. -/
def gridUnit (exponent : Int) : Nat × Nat :=
  (Nat.pow 10 exponent.toNat * (4 * one), Nat.pow 10 (-exponent).toNat)

/-- The point of a grid that lies in the interval, the nearer one if there are two. -/
def onGrid (tie : Tie) (i : Interval) (exponent : Int) : Option Nat :=
  let (num, den) := gridUnit exponent
  let below := i.value * den / num
  let above := below + 1
  match i.contains (below * num) den, i.contains (above * num) den with
  | true, true =>
    let toBelow := i.value * den - below * num
    let toAbove := above * num - i.value * den
    if toBelow < toAbove then some below
    else if toAbove < toBelow then some above
    else match tie with
      | .upward => some above
      | .toEven => some (if below % 2 = 0 then below else above)
  | true, false => some below
  | false, true => some above
  | false, false => none

/-- The exponent of the finest grid that any double needs: its unit is less than a step. -/
def finest : Int := -324

/-- The first grid with a point in the interval, from the one `n` tens coarser than the
finest on. -/
def coarsest (tie : Tie) (i : Interval) : Nat → Scaled
  | 0 => ⟨(onGrid tie i finest).getD 0, finest⟩
  | n + 1 =>
    match onGrid tie i (finest + (n + 1)) with
    | some point => ⟨point, finest + (n + 1)⟩
    | none => coarsest tie i n

/-- The shortest decimal that reads back as a double of so many steps, more than none. No
double reaches `10 ^ 309`. -/
def shortest (tie : Tie) (steps : Nat) : Scaled := coarsest tie (interval steps) 633

/-- A point of a grid that is chosen lies in the interval. -/
theorem contains_of_onGrid {tie : Tie} {i : Interval} {exponent : Int} {point : Nat}
    (h : onGrid tie i exponent = some point) :
    i.contains (point * (gridUnit exponent).1) (gridUnit exponent).2 = true := by
  simp only [onGrid] at h
  split at h
  · next hbelow habove =>
    split at h
    · simp only [Option.some.injEq] at h
      exact h ▸ hbelow
    · split at h
      · simp only [Option.some.injEq] at h
        exact h ▸ habove
      · split at h
        · simp only [Option.some.injEq] at h
          exact h ▸ habove
        · simp only [Option.some.injEq] at h
          split at h
          · exact h ▸ hbelow
          · exact h ▸ habove
  · next hbelow _ =>
    simp only [Option.some.injEq] at h
    exact h ▸ hbelow
  · next _ habove =>
    simp only [Option.some.injEq] at h
    exact h ▸ habove
  · cases h

end SlotSwap.Number
