import SlotSwap.Json.Number
import SlotSwap.Json.Text

/-! JSON values, as far as a cell looks at them.

Numbers, words and strings are read whole. Of a list or an object only the opening
bracket is taken: whoever does not want one refuses it there. Every value takes at
least one character off the text (`readDatum_length`). -/
namespace SlotSwap.Json

def isBlank (c : Char) : Bool := c = ' ' || c = '\t' || c = '\n' || c = '\r'

def skipBlanks (text : List Char) : List Char := text.dropWhile isBlank

/-- The rest of a word whose first letter told it from all others. -/
def readWord (datum : Datum) : List Char → Reader Datum
  | [] => fun text => .ok (datum, text)
  | letter :: letters => fun text =>
    match text with
    | [] => .error (.unfinished .value)
    | c :: rest =>
      if c = letter then readWord datum letters rest else .error (.malformed .unknownWord)

/-- A value that begins with the first character. -/
def readDatum : Reader Datum
  | [] => .error (.unfinished .value)
  | c :: rest =>
    if c = '-' then readNumber true rest
    else if c.isDigit then readNumber false (c :: rest)
    else if c = 'n' then readWord .null ['u', 'l', 'l'] rest
    else if c = 't' then readWord (.boolean true) ['r', 'u', 'e'] rest
    else if c = 'f' then readWord (.boolean false) ['a', 'l', 's', 'e'] rest
    else if c = '"' then do
      let (text, behind) ← readText rest
      return (.text (String.ofList text), behind)
    else if c = '[' then .ok (.sequence, rest)
    else if c = '\x7b' then .ok (.mapping, rest)
    else .error (.malformed .noValue)

/-! ### Reading takes text away -/

theorem readWord_suffix {datum read : Datum} {letters text behind : List Char}
    (h : readWord datum letters text = .ok (read, behind)) : behind <:+ text := by
  induction letters generalizing text with
  | nil =>
    cases h
    exact List.suffix_refl _
  | cons letter letters ih =>
    cases text with
    | nil => cases h
    | cons c rest =>
      simp only [readWord] at h
      split at h
      · exact (ih h).trans (List.suffix_cons ..)
      · cases h

theorem readDatum_length {text : List Char} {datum : Datum} {behind : List Char}
    (h : readDatum text = .ok (datum, behind)) : behind.length < text.length := by
  cases text with
  | nil => cases h
  | cons c rest =>
    rw [readDatum] at h
    split at h
    · exact Nat.lt_succ_of_lt (readNumber_length h)
    · split at h
      · exact readNumber_length h
      · split at h
        · exact Nat.lt_succ_of_le (readWord_suffix h).length_le
        · split at h
          · exact Nat.lt_succ_of_le (readWord_suffix h).length_le
          · split at h
            · exact Nat.lt_succ_of_le (readWord_suffix h).length_le
            · split at h
              · simp only [bind, Except.bind] at h
                split at h
                · cases h
                · next read hread =>
                  cases h
                  exact Nat.lt_succ_of_lt (readTextFrom_length hread)
              · split at h
                · cases h
                  exact Nat.lt_succ_self _
                · split at h
                  · cases h
                    exact Nat.lt_succ_self _
                  · cases h

theorem length_skipBlanks_le (text : List Char) : (skipBlanks text).length ≤ text.length :=
  (List.dropWhile_suffix _).length_le

end SlotSwap.Json
