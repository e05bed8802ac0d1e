import SlotSwap.Log.Directive
import SlotSwap.Text.Separated

/-! Which events are shown, and how.

A filter is a list of directives. Of those that cover an event the narrowest
decides, the later of two alike; an event that none covers is not shown. In a text
directives are separated by commas. One that cannot be read is dropped and
reported, and when none is left a warning still shows.

On the console an event takes one line: its level, set to the right in five columns,
its message, and each field as a name and a value. With colours the level and the
parts of a field are painted; the message and the values never are. -/
namespace SlotSwap.Log
open Text

/-! ### Filters -/

/-- The narrower of two directives, the second of two alike. -/
def narrower (best : Option Directive) (d : Directive) : Option Directive :=
  match best with
  | none => some d
  | some other => if d.narrowness.lex other.narrowness (· < ·) then some other else some d

/-- The threshold for an event of a target: that of its narrowest directive. -/
def thresholdOf (directives : List Directive) (target : List Char) (event : Event) :
    Threshold :=
  ((directives.filter (·.covers target event)).foldl narrower none).bind (·.threshold)

/-- Whether an event of a target is shown. -/
def shown (directives : List Directive) (target : List Char) (event : Event) : Bool :=
  (thresholdOf directives target event).shows event.level

/-- What shows when nothing was asked for. -/
def Directive.default : Directive := ⟨none, .every, some .warn⟩

/-- A filter as it was read: its directives, and the parts that are none. -/
structure Filter where
  directives : List Directive
  dropped : List (List Char × Misread)
deriving Repr

namespace Filter

/-- The parts of a filter's text that are not empty. -/
def parts (text : List Char) : List (List Char) :=
  (Separated.parts ',' text).filter (· ≠ [])

def read (text : List Char) : Filter :=
  let directives := (parts text).filterMap fun part => (Directive.read part).toOption
  { directives := if directives = [] then [Directive.default] else directives
    dropped := (parts text).filterMap fun part =>
      match Directive.read part with
      | .ok _ => none
      | .error why => some (part, why) }

def shows (f : Filter) (target : List Char) (event : Event) : Bool :=
  shown f.directives target event

end Filter

/-! ### Lines -/

namespace Console

/-- The escape sequence that switches to a rendition. -/
def switch (rendition : String) : String := "\x1b[" ++ rendition ++ "m"

/-- A text in a rendition, and the plain one after it. -/
def paint (colours : Bool) (rendition text : String) : String :=
  if colours then switch rendition ++ text ++ switch "0" else text

/-- The colour of a level. -/
def colour : Level → String
  | .error => "31"
  | .warn => "33"
  | .info => "32"
  | .debug => "34"
  | .trace => "35"

/-- A level in its five columns. -/
def column (level : Level) : String :=
  String.ofList (List.replicate (5 - level.name.length) ' ') ++ level.name

def field (colours : Bool) : String × String → String
  | (name, value) => paint colours "3" name ++ paint colours "2" "=" ++ value

def line (colours : Bool) (event : Event) : String :=
  paint colours (colour event.level) (column event.level) ++ " " ++ event.message
    ++ String.join (event.fields.map fun f => " " ++ field colours f) ++ "\n"

/-- The line that reports a part of a filter that is no directive. -/
def droppedLine : List Char × Misread → String
  | (part, why) => "ignoring `" ++ String.ofList part ++ "`: " ++ why.message ++ "\n"

end Console

end SlotSwap.Log
