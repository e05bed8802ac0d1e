import SlotSwap.Json.Fault

/-! JSON strings.

A string is read character by character from behind its opening quote. What the next
character means hangs on the `Mode`: plain text, the letter of an escape, the four
digits of a code unit, or the way from a leading surrogate to its trailing one. The
digits of a code unit are counted in bytes, and are looked at only when four bytes
are there. -/
namespace SlotSwap.Json
open Text

inductive Mode where
  | plain
  | letter
  /-- Within a code unit: the surrogate in front of it, the bytes seen, and their worth as
  long as all were digits. -/
  | unit (lead : Option Nat) (seen : Nat) (worth : Option Nat)
  /-- Behind a leading surrogate, where an escape must begin. -/
  | paired (lead : Nat)
  /-- Behind that escape's backslash. -/
  | pairedLetter (lead : Nat)
deriving DecidableEq, Repr

/-- What a character brings about. -/
inductive Turn where
  | close
  | go (mode : Mode)
  /-- A character of the text is complete. -/
  | emit (c : Char)
deriving DecidableEq, Repr

namespace Mode

def isLeading (unit : Nat) : Bool := 0xd800 ≤ unit && unit < 0xdc00

def isTrailing (unit : Nat) : Bool := 0xdc00 ≤ unit && unit < 0xe000

/-- A complete code unit: a character, half of a pair, or the end of one. -/
def complete (lead : Option Nat) (unit : Nat) : Except Malformed Turn :=
  match lead with
  | none =>
    if isTrailing unit then .error .loneSurrogate
    else if isLeading unit then .ok (.go (paired unit))
    else .ok (.emit (Char.ofNat unit))
  | some lead =>
    if isTrailing unit then
      .ok (.emit (Char.ofNat (0x10000 + (lead - 0xd800) * 0x400 + (unit - 0xdc00))))
    else .error .loneSurrogate

/-- The character that a letter behind a backslash stands for. -/
def escaped? : Char → Option Char
  | '"' => some '"'
  | '\\' => some '\\'
  | '/' => some '/'
  | 'b' => some '\x08'
  | 'f' => some '\x0c'
  | 'n' => some '\n'
  | 'r' => some '\r'
  | 't' => some '\t'
  | _ => none

def step (mode : Mode) (c : Char) : Except Malformed Turn :=
  match mode with
  | plain =>
    if c = '"' then .ok .close
    else if c = '\\' then .ok (.go letter)
    else if c.toNat < 0x20 then .error .controlCharacter
    else .ok (.emit c)
  | letter =>
    if c = 'u' then .ok (.go (unit none 0 (some 0)))
    else match escaped? c with
      | some c => .ok (.emit c)
      | none => .error .badEscape
  | unit lead seen worth =>
    let seen := seen + c.utf8Size
    let worth := match worth, Hexadecimal.digitValue? c with
      | some worth, some digit => some (worth * 16 + digit)
      | _, _ => none
    if seen < 4 then .ok (.go (unit lead seen worth))
    else match worth with
      | some worth => complete lead worth
      | none => .error .badEscape
  | paired lead => if c = '\\' then .ok (.go (pairedLetter lead)) else .error .unpairedSurrogate
  | pairedLetter lead =>
    if c = 'u' then .ok (.go (unit (some lead) 0 (some 0))) else .error .unpairedSurrogate

end Mode

/-- The text up to the closing quote. -/
def readTextFrom (mode : Mode) : Reader (List Char)
  | [] => .error (.unfinished .string)
  | c :: rest =>
    match mode.step c with
    | .error rule => .error (.malformed rule)
    | .ok .close => .ok ([], rest)
    | .ok (.go mode) => readTextFrom mode rest
    | .ok (.emit char) => do
      let (text, behind) ← readTextFrom .plain rest
      return (char :: text, behind)

/-- The text behind an opening quote. -/
def readText : Reader (List Char) := readTextFrom .plain

/-- Reading takes away at least the closing quote. -/
theorem readTextFrom_length {mode : Mode} {text : List Char} {read : List Char}
    {behind : List Char} (h : readTextFrom mode text = .ok (read, behind)) :
    behind.length < text.length := by
  induction text generalizing mode read behind with
  | nil => cases h
  | cons c rest ih =>
    simp only [readTextFrom] at h
    split at h
    · cases h
    · simp only [Except.ok.injEq, Prod.mk.injEq] at h
      simp [← h.2]
    · exact Nat.lt_succ_of_lt (ih h)
    · simp only [bind, Except.bind] at h
      split at h
      · cases h
      · next got hgot =>
        simp only [pure, Except.pure, Except.ok.injEq, Prod.mk.injEq] at h
        exact Nat.lt_succ_of_lt (h.2 ▸ ih hgot)

end SlotSwap.Json
