import SlotSwap.Proofs.Slots.Window

/-! Clients that share a list.

A list is cut in two and each half is handed to a client, who makes calls there and does
not know of the other. The order of turns is not theirs to choose: an `Interleaving` is
any order of the calls of both that keeps the order of each. It makes no difference to
anybody: `Interleaving.serve_independent` says that each half ends as its client alone
leaves it and that each client learns what it learns alone. -/
namespace SlotSwap.Slots
open Log

/-! ### Turns -/

/-- What the caller learns of a call. -/
structure Outcome where
  result : Except Error Unit
  log : List Event

def Attempt.outcome (attempt : Attempt α) : Outcome := ⟨attempt.result, attempt.log⟩

/-- What is learnt of the calls of a run. -/
def outcomes (slots : List α) (calls : List Call) : List Outcome :=
  (attempts slots calls).map Attempt.outcome

/-- An order of turns for the calls of two clients. -/
inductive Interleaving : List Call → List Call → Type where
  | done : Interleaving [] []
  /-- The client in front of the cut makes its next call. -/
  | front {a b : List Call} (call : Call) (rest : Interleaving a b) : Interleaving (call :: a) b
  /-- The client behind the cut makes its next call. -/
  | back {a b : List Call} (call : Call) (rest : Interleaving a b) : Interleaving a (call :: b)

namespace Interleaving

/-- The slots when all calls are made, and what each client has learnt by then. -/
structure Service (α : Type u) where
  slots : List α
  front : List Outcome
  back : List Outcome

/-- Makes the calls turn by turn on one list, each in the window of its client. -/
def serve {length : Nat} (cut : Fin (length + 1)) (slots : List α) :
    Interleaving a b → Service α
  | done => ⟨slots, [], []⟩
  | front call rest =>
    let attempt := Window.swapAt ⟨0, cut, Nat.zero_le cut⟩ slots call.1 call.2
    let service := rest.serve cut attempt.slots
    {service with front := attempt.outcome :: service.front}
  | back call rest =>
    let attempt := Window.swapAt ⟨cut, length, cut.is_le⟩ slots call.1 call.2
    let service := rest.serve cut attempt.slots
    {service with back := attempt.outcome :: service.back}

/-! ### Halves

The halves are variables of their own: the turns change them and the cut stays where it is. -/

section Halves
variable {length : Nat} {cut : Fin (length + 1)} {left right : List α}

/-- A turn of the client in front of the cut. -/
theorem swapAt_left (hcut : left.length = cut) (i j : Nat) :
    Window.swapAt ⟨0, cut, Nat.zero_le cut⟩ (left ++ right) i j =
      ⟨(swapAt left i j).result, (swapAt left i j).slots ++ right, (swapAt left i j).log⟩ :=
  Window.swapAt_append (w := ⟨0, cut, Nat.zero_le cut⟩) [] left right rfl hcut i j

/-- A turn of the client behind the cut. -/
theorem swapAt_right (hcut : left.length = cut) (hlength : (left ++ right).length = length)
    (i j : Nat) :
    Window.swapAt ⟨cut, length, cut.is_le⟩ (left ++ right) i j =
      ⟨(swapAt right i j).result, left ++ (swapAt right i j).slots, (swapAt right i j).log⟩ := by
  have hturn := Window.swapAt_append (w := ⟨cut, length, cut.is_le⟩) left right [] hcut hlength i j
  rwa [List.append_nil, List.append_nil] at hturn

/-- Whatever the order of turns, the halves are served apart. -/
theorem serve_append (hcut : left.length = cut) (hlength : (left ++ right).length = length)
    (turns : Interleaving a b) :
    turns.serve cut (left ++ right) =
      ⟨run left a ++ run right b, outcomes left a, outcomes right b⟩ := by
  induction turns generalizing left right with
  | done => rfl
  | front call rest ih =>
    obtain ⟨i, j⟩ := call
    have hafter : ((swapAt left i j).slots ++ right).length = length := by
      rwa [List.length_append, length_swapAt, ← List.length_append]
    rw [serve, swapAt_left hcut, ih ((length_swapAt left i j).trans hcut) hafter]
    rfl
  | back call rest ih =>
    obtain ⟨i, j⟩ := call
    have hafter : (left ++ (swapAt right i j).slots).length = length := by
      rwa [List.length_append, length_swapAt, ← List.length_append]
    rw [serve, swapAt_right hcut hlength, ih hcut hafter]
    rfl

end Halves

/-- **Two clients of one list do not interfere.** However their turns are mixed, the list
ends as what one client alone leaves of the slots in front of the cut and the other of
those behind it, and to each client every call has the result and the events that it has
when the client is alone. -/
theorem serve_independent (slots : List α) (cut : Fin (slots.length + 1))
    (turns : Interleaving a b) :
    turns.serve cut slots =
      { slots := run (slots.take cut) a ++ run (slots.drop cut) b
        front := outcomes (slots.take cut) a
        back := outcomes (slots.drop cut) b } := by
  have hcut : (slots.take cut).length = cut := by
    rw [List.length_take, Nat.min_eq_left cut.is_le]
  have hserve := serve_append hcut (by rw [List.take_append_drop]) turns
  rwa [List.take_append_drop] at hserve

end SlotSwap.Slots.Interleaving
