import SlotSwap.Json.Cells
import SlotSwap.Slots.Window

/-! A store of cells.

A store is a list of cells that grows, is overwritten, exchanged and shown by
operations. Every operation answers with a reply or with the reason why it failed,
and a failed one leaves the cells as they were. -/
namespace SlotSwap.Store
open Log Slots

inductive Operation where
  /-- A cell made with a value is put behind the others. -/
  | new (value : Int32)
  /-- A value that stands for a cell is put behind the others. -/
  | convert (value : Int32)
  /-- A fresh cell is put behind the others. -/
  | fresh
  /-- The cell that a JSON text holds is put behind the others. -/
  | parse (text : String)
  /-- The list of cells that a JSON text holds takes the place of all. -/
  | load (text : String)
  | save
  | get (index : Nat)
  | set (index : Nat) (value : Int32)
  | display (index : Nat)
  | equal (i j : Nat)
  /-- Two cells exchange what they hold. -/
  | swap (i j : Nat)
  /-- A cell exchanges its value with another. -/
  | swapWith (i j : Nat)
  /-- Two cells are put back the other way round. -/
  | cross (i j : Nat)
  | swapAt (i j : Nat)
  /-- A swap of slots inside the window from `first` up to `last`. -/
  | swapInside (first last i j : Nat)
deriving DecidableEq, Repr

inductive Reply where
  | done
  | value (value : Int32)
  | text (text : String)
  /-- A cell as it is displayed, and its record. -/
  | shown (display record : String)
  | truth (value : Bool)
deriving DecidableEq, Repr

inductive Failure where
  | refusedSwap (error : Slots.Error)
  | badJson (fault : Json.Fault)
  /-- The operation names cells that are not there, or one cell where two are wanted. -/
  | noSuchCells
deriving DecidableEq, Repr

/-- What an operation leaves: its answer, the cells afterwards and its events. -/
structure Step where
  answer : Except Failure Reply
  cells : List Cell
  log : List Event

namespace Step

def failed (why : Failure) (cells : List Cell) : Step := ⟨.error why, cells, []⟩

def replied (reply : Reply) (cells : List Cell) : Step := ⟨.ok reply, cells, []⟩

/-- A checked swap as a step. -/
def ofAttempt (attempt : Attempt Cell) : Step :=
  { answer := match attempt.result with
      | .ok () => .ok .done
      | .error why => .error (.refusedSwap why)
    cells := attempt.slots
    log := attempt.log }

end Step

/-! ### Reaching the cells -/

/-- What an operation does with one cell that is there. -/
def withCell (cells : List Cell) (index : Nat) (act : Cell → Step) : Step :=
  match cells[index]? with
  | some cell => act cell
  | none => .failed .noSuchCells cells

/-- What an operation does with two cells that are there. -/
def withCells (cells : List Cell) (i j : Nat) (act : Cell → Cell → Step) : Step :=
  match cells[i]?, cells[j]? with
  | some first, some second => act first second
  | _, _ => .failed .noSuchCells cells

/-- Two cells are put back in their slots. -/
def putBack (cells : List Cell) (i j : Nat) (pair : Cell × Cell) : List Cell :=
  (cells.set i pair.1).set j pair.2

/-- What an operation does with two different cells: it puts back the pair it makes. -/
def exchanging (cells : List Cell) (i j : Nat) (act : Cell → Cell → Cell × Cell) : Step :=
  if i = j then .failed .noSuchCells cells
  else withCells cells i j fun first second =>
    .replied .done (putBack cells i j (act first second))

/-! ### Operations -/

def step (cells : List Cell) : Operation → Step
  | .new value => .replied .done (cells ++ [⟨value⟩])
  | .convert value => .replied .done (cells ++ [(value : Cell)])
  | .fresh => .replied .done (cells ++ [default])
  | .parse text =>
    match Cell.ofJson text with
    | .ok cell => .replied .done (cells ++ [cell])
    | .error fault => .failed (.badJson fault) cells
  | .load text =>
    match Cell.listOfJson text with
    | .ok loaded => .replied .done loaded
    | .error fault => .failed (.badJson fault) cells
  | .save => .replied (.text (Cell.listToJson cells)) cells
  | .get index => withCell cells index fun cell => .replied (.value cell.get) cells
  | .set index value => withCell cells index fun cell =>
    let (previous, cell) := cell.set value
    .replied (.value previous) (cells.set index cell)
  | .display index => withCell cells index fun cell =>
    .replied (.shown cell.display cell.record.line) cells
  | .equal i j => withCells cells i j fun first second => .replied (.truth (first = second)) cells
  | .swap i j => exchanging cells i j fun first second => Slots.swap (first, second)
  | .swapWith i j => exchanging cells i j Cell.swapWith
  | .cross i j => withCells cells i j fun first second =>
    .replied .done (putBack cells i j (crossed first second))
  | .swapAt i j => .ofAttempt (Slots.swapAt cells i j)
  | .swapInside first last i j =>
    if h : first ≤ last ∧ last ≤ cells.length then
      .ofAttempt (Window.swapAt ⟨first, last, h.1⟩ cells i j)
    else .failed .noSuchCells cells

/-- The steps of a run of operations, each on the cells that the one before it left. -/
def steps (cells : List Cell) : List Operation → List Step
  | [] => []
  | operation :: rest => step cells operation :: steps (step cells operation).cells rest

def run (cells : List Cell) : List Operation → List Cell
  | [] => cells
  | operation :: rest => run (step cells operation).cells rest

/-- The operation at some place of a run works on what those before it left. -/
theorem getElem?_steps (cells : List Cell) (operations : List Operation) (n : Nat) :
    (steps cells operations)[n]? = operations[n]?.map (step (run cells (operations.take n))) := by
  induction operations generalizing cells n with
  | nil => rfl
  | cons operation rest ih =>
    cases n with
    | zero => rfl
    | succ n => exact ih _ n

theorem run_append (cells : List Cell) (a b : List Operation) :
    run cells (a ++ b) = run (run cells a) b := by
  induction a generalizing cells with
  | nil => rfl
  | cons operation rest ih => exact ih _

end SlotSwap.Store
