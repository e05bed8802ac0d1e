/-! Diagnostic events.

An operation that has something to say returns it: a level, a message and named
values, in the order they are to be read. Nothing here prints; which events are
shown, and how, is for `Filter.shows` and `Console.line`. -/
namespace SlotSwap.Log

/-- How loud an event is, from the gravest to the most detailed. -/
inductive Level where
  | error
  | warn
  | info
  | debug
  | trace
deriving DecidableEq, Repr

namespace Level

/-- The detail of a level: the gravest is 1. -/
def rank : Level → Nat
  | error => 1
  | warn => 2
  | info => 3
  | debug => 4
  | trace => 5

def name : Level → String
  | error => "ERROR"
  | warn => "WARN"
  | info => "INFO"
  | debug => "DEBUG"
  | trace => "TRACE"

end Level

structure Event where
  level : Level
  message : String
  /-- Names and the texts of their values. -/
  fields : List (String × String)
deriving DecidableEq, Repr

/-- Whether an event has a field of a name; its message is one. -/
def Event.carries (event : Event) (name : List Char) : Bool :=
  name = "message".toList || event.fields.any fun (field, _) => field.toList = name

end SlotSwap.Log
