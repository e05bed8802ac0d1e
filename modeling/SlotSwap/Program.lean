import SlotSwap.Demo
import SlotSwap.Log.Display

/-! The program.

It runs the demonstration and ends with its status. Nothing goes to the output; the
diagnostics say what happened, as far as the filter shows it. Of the environment
only the filter and the wish for no colours are heeded, never the arguments. -/
namespace SlotSwap.Program
open Log Text

structure Environment where
  arguments : List String
  /-- The filter's text, if there is one. -/
  filter : Option String
  /-- There are no colours when this is there and not empty. -/
  noColour : Option String

/-- What is seen of a finished process. -/
structure Finished where
  status : UInt8
  output : String
  diagnostics : String
deriving DecidableEq, Repr

/-- An event and the part of the program that emitted it. -/
structure Emitted where
  target : String
  event : Event
deriving DecidableEq, Repr

/-- The events of a run, in order: the demonstration's, then the program's own. -/
def emitted (outcome : Demo.Outcome) (log : List Event) : List Emitted :=
  log.map (⟨"exchange::demo", ·⟩) ++
    [⟨"exchange", ⟨.debug, "exiting",
      [("first", outcome.first.display), ("second", outcome.second.display),
        ("status", Decimal.ofNat outcome.exitStatus.toNat)]⟩⟩]

def Environment.readFilter (environment : Environment) : Filter :=
  Filter.read (environment.filter.getD "").toList

def Environment.colours (environment : Environment) : Bool :=
  environment.noColour.getD "" = ""

/-- The events that a filter shows, in the order in which they were emitted. -/
def selected (filter : Filter) (events : List Emitted) : List Emitted :=
  events.filter fun e => filter.shows e.target.toList e.event

/-- What is written of a run: the parts of the filter that are none, then its events. -/
def diagnostics (colours : Bool) (filter : Filter) (events : List Emitted) : String :=
  String.join (filter.dropped.map Console.droppedLine) ++
    String.join ((selected filter events).map fun e => Console.line colours e.event)

def run (environment : Environment) : Finished :=
  let (outcome, log) := Demo.run {}
  { status := outcome.exitStatus
    output := ""
    diagnostics :=
      diagnostics environment.colours environment.readFilter (emitted outcome log) }

end SlotSwap.Program
