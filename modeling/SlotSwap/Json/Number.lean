import SlotSwap.Json.Fault

/-! JSON numbers.

The digits of a number are gathered in a word of 64 bits. One without a point or an
exponent that the word, with its sign, can hold is a whole number; any other is a
double. For it the gathered digits, rounded to a double, are multiplied or divided
by a power of ten, itself a rounded double: digits that no longer fit in the word
only move the point, and no more than `10 ^ 308` is taken at a time. -/
namespace SlotSwap.Json
open Number Text

/-- The first number that a word of 64 bits cannot hold. -/
def wordLimit : Nat := 0x10000000000000000

/-- How far below zero a signed word of 64 bits reaches. -/
def signedDepth : Nat := 0x8000000000000000

/-- Gathers digits behind those worth `worth`, up to one with which they would not fit in a
word: their worth, how many were taken, and what follows. -/
def gather (worth : Nat) : List Char → Nat × Nat × List Char
  | [] => (worth, 0, [])
  | c :: rest =>
    let next := worth * 10 + Decimal.digitValue c
    if c.isDigit ∧ next < wordLimit then
      let (total, taken, behind) := gather next rest
      (total, taken + 1, behind)
    else (worth, 0, c :: rest)

theorem gather_suffix (worth : Nat) (text : List Char) : (gather worth text).2.2 <:+ text := by
  induction text generalizing worth with
  | nil => exact List.suffix_refl _
  | cons c rest ih =>
    simp only [gather]
    split
    · exact (ih _).trans (List.suffix_cons c rest)
    · exact List.suffix_refl _

/-! ### Scaling by powers of ten -/

/-- The steps of the double nearest to a power of ten. -/
def powerOfTen (power : Nat) : Nat := double.nearest (Nat.pow 10 power * one) 1

/-- A double times a power of ten, if that is not beyond the largest double. -/
def scale (steps : Nat) (power : Int) : Option Nat :=
  if power.natAbs ≤ 308 then
    if 0 ≤ power then
      let product := double.nearest (steps * powerOfTen power.natAbs) one
      if double.holds product then some product else none
    else some (double.nearest (steps * one) (powerOfTen power.natAbs))
  else if steps = 0 then some 0
  else if 0 ≤ power then none
  else scale (double.nearest (steps * one) (powerOfTen 308)) (power + 308)
termination_by power.natAbs
decreasing_by omega

/-- The double that gathered digits and a power of ten stand for. -/
def real (negative : Bool) (worth : Nat) (power : Int) : Except Fault Datum :=
  match scale (double.nearest (worth * one) 1) power with
  | some steps => .ok (.double (.finite negative steps))
  | none => .error (.malformed .numberOutOfRange)

/-! ### Exponents -/

/-- The largest exponent that a word of 32 bits can hold. -/
def largestPower : Nat := 0x7fffffff

/-- A power of ten no larger than a word of 32 bits can hold. -/
def clampPower (power : Int) : Int := max (-largestPower - 1) (min largestPower power)

/-- The number behind its `e`. An exponent that no word can hold makes any number but zero
too large or nothing. -/
def readExponent (negative : Bool) (worth : Nat) (power : Int) : Reader Datum := fun text =>
  let (down, digits) := Decimal.splitSign text
  match digits with
  | [] => .error (.unfinished .value)
  | c :: _ =>
    if c.isDigit then do
      let written := Decimal.valueOf (digits.takeWhile Char.isDigit)
      let behind := digits.dropWhile Char.isDigit
      if largestPower < written then
        if worth ≠ 0 ∧ ¬down then .error (.malformed .numberOutOfRange)
        else return (.double (.finite negative 0), behind)
      else
        let moved := if down then power - written else power + written
        let datum ← real negative worth (clampPower moved)
        return (datum, behind)
    else .error (.malformed .badNumber)

/-- Whether an exponent begins, and the text behind its letter. -/
def exponent? : List Char → Option (List Char)
  | 'e' :: rest => some rest
  | 'E' :: rest => some rest
  | _ => none

/-! ### The parts of a number -/

/-- The number behind its point. -/
def readFraction (negative : Bool) (worth : Nat) (power : Int) : Reader Datum := fun text =>
  match text with
  | [] => .error (.unfinished .value)
  | c :: _ =>
    if c.isDigit then
      let (total, taken, rest) := gather worth text
      let behind := rest.dropWhile Char.isDigit
      match exponent? behind with
      | some rest => readExponent negative total (power - taken) rest
      | none => do return (← real negative total (power - taken), behind)
    else .error (.malformed .badNumber)

/-- The whole number that gathered digits stand for, or a double where a signed word has
no room for it or, as for zero with a sign, no such number. -/
def whole (negative : Bool) (worth : Nat) : Datum :=
  if ¬negative then .uint64 (UInt64.ofNat worth)
  else if 1 ≤ worth ∧ worth ≤ signedDepth then .int64 (Int64.ofInt (-worth))
  else .double (.finite true (double.nearest (worth * one) 1))

/-- The number behind its whole digits, `dropped` of which did not fit in the word. -/
def readEnding (negative : Bool) (worth dropped : Nat) : Reader Datum := fun text =>
  match text with
  | '.' :: rest => readFraction negative worth dropped rest
  | _ =>
    match exponent? text with
    | some rest => readExponent negative worth dropped rest
    | none =>
      if dropped = 0 then .ok (whole negative worth, text)
      else do return (← real negative worth dropped, text)

/-- A number behind its sign. No digit follows a zero in front. -/
def readNumber (negative : Bool) : Reader Datum := fun text =>
  match text with
  | [] => .error (.unfinished .value)
  | '0' :: rest =>
    if (rest.head?.map Char.isDigit).getD false then .error (.malformed .badNumber)
    else readEnding negative 0 0 rest
  | c :: _ =>
    if c.isDigit then
      let (worth, _, rest) := gather 0 text
      let dropped := rest.takeWhile Char.isDigit
      readEnding negative worth dropped.length (rest.dropWhile Char.isDigit)
    else .error (.malformed .badNumber)

/-! ### Reading takes text away -/

theorem readExponent_suffix {negative : Bool} {worth : Nat} {power : Int} {text : List Char}
    {datum : Datum} {behind : List Char}
    (h : readExponent negative worth power text = .ok (datum, behind)) : behind <:+ text := by
  unfold readExponent at h
  refine List.IsSuffix.trans ?_ (Decimal.splitSign_suffix text)
  simp only at h
  split at h
  · cases h
  · split at h
    · split at h
      · split at h
        · cases h
        · cases h
          exact List.dropWhile_suffix _
      · simp only [bind, Except.bind] at h
        split at h
        · cases h
        · cases h
          exact List.dropWhile_suffix _
    · cases h

theorem exponent?_suffix {text behind : List Char} (h : exponent? text = some behind) :
    behind <:+ text := by
  unfold exponent? at h
  split at h <;> cases h <;> exact List.suffix_cons ..

theorem readFraction_suffix {negative : Bool} {worth : Nat} {power : Int} {text : List Char}
    {datum : Datum} {behind : List Char}
    (h : readFraction negative worth power text = .ok (datum, behind)) : behind <:+ text := by
  unfold readFraction at h
  split at h
  · cases h
  · next c rest =>
    split at h
    · have hrest := (List.dropWhile_suffix Char.isDigit).trans (gather_suffix worth (c :: rest))
      simp only at h
      split at h
      · next hexp => exact (readExponent_suffix h).trans ((exponent?_suffix hexp).trans hrest)
      · simp only [bind, Except.bind] at h
        split at h
        · cases h
        · cases h
          exact hrest
    · cases h

theorem readEnding_suffix {negative : Bool} {worth dropped : Nat} {text : List Char}
    {datum : Datum} {behind : List Char}
    (h : readEnding negative worth dropped text = .ok (datum, behind)) : behind <:+ text := by
  unfold readEnding at h
  split at h
  · exact (readFraction_suffix h).trans (List.suffix_cons ..)
  · split at h
    · next hexp => exact (readExponent_suffix h).trans (exponent?_suffix hexp)
    · split at h
      · cases h
        exact List.suffix_refl _
      · simp only [bind, Except.bind] at h
        split at h
        · cases h
        · cases h
          exact List.suffix_refl _

/-- A number has at least one digit. -/
theorem readNumber_length {negative : Bool} {text : List Char} {datum : Datum}
    {behind : List Char} (h : readNumber negative text = .ok (datum, behind)) :
    behind.length < text.length := by
  unfold readNumber at h
  split at h
  · cases h
  · split at h
    · cases h
    · exact Nat.lt_succ_of_le (readEnding_suffix h).length_le
  · next c rest _ =>
    split at h
    · next hc =>
      have hgather : (gather 0 (c :: rest)).2.2 <:+ rest := by
        have hsmall : Decimal.digitValue c < wordLimit := by
          have : c.toNat < 0x100000000 := c.val.toNat_lt
          unfold Decimal.digitValue wordLimit
          omega
        simp only [gather, hc, Nat.zero_mul, Nat.zero_add, true_and, hsmall, if_true]
        exact gather_suffix _ _
      have hrest := (List.dropWhile_suffix Char.isDigit).trans hgather
      exact Nat.lt_succ_of_le ((readEnding_suffix h).trans hrest).length_le
    · cases h

end SlotSwap.Json
