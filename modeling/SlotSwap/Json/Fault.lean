import SlotSwap.Value.Message

/-! What can be wrong with a JSON text.

The text may break a rule of the grammar, end before it is complete, or hold a value
that is not the one wanted. A reader stops at the first fault it meets. -/
namespace SlotSwap.Json

/-- A rule of the grammar that the text breaks. -/
inductive Malformed where
  | noValue
  | unknownWord
  | badNumber
  | numberOutOfRange
  | badEscape
  | controlCharacter
  | loneSurrogate
  | unpairedSurrogate
  | noCommaOrEnd
  | trailingComma
  | trailingCharacters
deriving DecidableEq, Repr

/-- What the text ends within. -/
inductive Unfinished where
  | value
  | string
  | list
deriving DecidableEq, Repr

inductive Fault where
  | malformed (rule : Malformed)
  | unfinished (part : Unfinished)
  | refused (why : Refusal)
deriving DecidableEq, Repr

def Malformed.message : Malformed → String
  | noValue => "expected value"
  | unknownWord => "expected ident"
  | badNumber => "invalid number"
  | numberOutOfRange => "number out of range"
  | badEscape => "invalid escape"
  | controlCharacter => "control character (\\u0000-\\u001F) found while parsing a string"
  | loneSurrogate => "lone leading surrogate in hex escape"
  | unpairedSurrogate => "unexpected end of hex escape"
  | noCommaOrEnd => "expected `,` or `]`"
  | trailingComma => "trailing comma"
  | trailingCharacters => "trailing characters"

def Unfinished.message : Unfinished → String
  | value => "EOF while parsing a value"
  | string => "EOF while parsing a string"
  | list => "EOF while parsing a list"

def Fault.message : Fault → String
  | malformed rule => rule.message
  | unfinished part => part.message
  | refused why => why.message Wording.json

/-- What a reader of a value makes of a text: the value and the text behind it, or the
first fault. -/
abbrev Reader (α : Type) := List Char → Except Fault (α × List Char)

end SlotSwap.Json
