import SlotSwap.Log.Event
import SlotSwap.Text.Class
import SlotSwap.Text.Decimal

/-! Directives: what is to be shown of which events.

A directive is a threshold for all targets or for those whose name begins with a
given text. Written down it is a threshold, a target, or a target and a threshold
with an equals sign between them; a threshold has a name and a number. Brackets
behind the target narrow it further, to the events with a field or inside a span. -/
namespace SlotSwap.Log
open Text

/-- The most detailed level shown, if any is. -/
abbrev Threshold := Option Level

namespace Threshold

/-- A threshold shows its own level and whatever is graver. -/
def shows (threshold : Threshold) (level : Level) : Bool :=
  threshold.any fun most => level.rank ≤ most.rank

/-- The threshold that a number stands for: nothing at zero, then one level more each. -/
def ofNumber? : Nat → Option Threshold
  | 0 => some none
  | 1 => some (some .error)
  | 2 => some (some .warn)
  | 3 => some (some .info)
  | 4 => some (some .debug)
  | 5 => some (some .trace)
  | _ => none

def ofName? (name : String) : Option Threshold :=
  if name = "off" then some none
  else if name = "error" then some (some .error)
  else if name = "warn" then some (some .warn)
  else if name = "info" then some (some .info)
  else if name = "debug" then some (some .debug)
  else if name = "trace" then some (some .trace)
  else none

/-- A threshold by its number, or by its name in letters of either case. -/
def read (text : List Char) : Option Threshold :=
  match Decimal.toNat? text with
  | some number => ofNumber? number
  | none => ofName? (String.ofList (text.map Char.toLower))

end Threshold

/-- Why a directive cannot be read. -/
inductive Misread where
  | unknownLevel
  | noDirective
deriving DecidableEq, Repr

def Misread.message : Misread → String
  | unknownLevel =>
    "error parsing level filter: expected one of \"off\", \"error\", \"warn\", \"info\", " ++
      "\"debug\", \"trace\", or a number 0-5"
  | noDirective => "invalid filter directive"

/-! ### Scopes -/

/-- Which of a target's events a directive is for. -/
inductive Scope where
  | every
  /-- Those with a field of this name. -/
  | carrying (field : List Char)
  /-- Those inside a span; no event is inside one. -/
  | insideSpan
deriving DecidableEq, Repr

namespace Scope

def includes (event : Event) : Scope → Bool
  | every => true
  | carrying field => event.carries field
  | insideSpan => false

/-- The name that a scope asks for. -/
def field : Scope → List Char
  | carrying field => field
  | _ => []

/-- The scope in front of a text, and what is behind it. It stands in brackets: the name
of a span, and in braces a field, which may have a value. A field's value is that of a
span's field. Without brackets the scope is every event. -/
def read : List Char → Except Misread (Scope × List Char)
  | '[' :: inside =>
    let span := inside.takeWhile fun c => c ≠ ']' ∧ c ≠ '\x7b'
    match inside.drop span.length with
    | ']' :: behind => .ok (insideSpan, behind)
    | _ :: braces =>
      let field := braces.takeWhile (· ≠ '\x7d')
      match field, braces.drop field.length with
      | _ :: _, '\x7d' :: ']' :: behind =>
        .ok (if span = [] ∧ '=' ∉ field then carrying field else insideSpan, behind)
      | _, _ => .error .noDirective
    | [] => .error .noDirective
  | text => .ok (every, text)

end Scope

/-! ### Directives -/

structure Directive where
  /-- How the names begin of the targets it is for; it is for all when there is none. -/
  target : Option (List Char)
  scope : Scope
  threshold : Threshold
deriving DecidableEq, Repr

namespace Directive

/-- Whether a directive is for an event of a target. -/
def covers (d : Directive) (target : List Char) (event : Event) : Bool :=
  d.target.all (·.isPrefixOf target) && d.scope.includes event

/-- How narrowly a directive picks its events: by the length of its text, then by the
name of its field. -/
def narrowness (d : Directive) : List Nat :=
  let length := match d.target with
    | none => 0
    | some start => start.length + 1
  length :: d.scope.field.map Char.toNat

/-- Whether a directive may begin with a character. -/
def opens (c : Char) : Bool :=
  Alphanumeric.isAlphanumeric c || c = '-' || c = ':' || c = '_' || c = '['

/-- The threshold behind what a directive is for: everything is shown when nothing, or
nothing but the equals sign, is there. -/
def readThreshold : List Char → Except Misread Threshold
  | ['='] => .ok (some .trace)
  | '=' :: level =>
    match Threshold.read level with
    | some threshold => .ok threshold
    | none => .error .unknownLevel
  | text => if text.all Blank.isBlank then .ok (some .trace) else .error .noDirective

/-- The directive that a part of a filter's text stands for; white space alone stands for
none. Without an equals sign or brackets it is a threshold for all targets or, failing
that, a target that is shown whole. White space counts as part of the target or the level
beside it, and with white space in front no level can be read. -/
def read (part : List Char) : Except Misread Directive :=
  let margin := part.takeWhile Blank.isBlank
  let text := part.drop margin.length
  let start := text.takeWhile fun c => c ≠ '=' ∧ c ≠ '['
  if !text.head?.any opens then .error .noDirective
  else if start = text then
    match Threshold.read part with
    | some threshold => .ok ⟨none, .every, threshold⟩
    | none => .ok ⟨some part, .every, some .trace⟩
  else do
    let (scope, behind) ← Scope.read (text.drop start.length)
    if margin ≠ [] ∧ behind.head? = some '=' then .error .unknownLevel
    else
      let threshold ← readThreshold behind
      let target := margin ++ start
      return ⟨if target = [] then none else some target, scope, threshold⟩

end Directive

end SlotSwap.Log
