/-! Decimal numerals.

A number is written with its decimal digits, most significant first and no zero
in front, and a negative one with a minus sign before them. In reading, zeros may
stand in front of the digits and a sign before them all: `toNat?` takes a plus
sign, `toInt?` one of either kind. `toNat?_digits` and `toInt?_ofInt` say that a
number which is written and read comes back, so that different numbers have
different numerals (`ofNat_injective`, `ofInt_injective`). -/
namespace SlotSwap.Text.Decimal

/-- The digits of a number, most significant first. -/
def digits (n : Nat) : List Char := Nat.toDigits 10 n

/-- What a run of digits is worth. -/
def valueOf (ds : List Char) : Nat := Nat.ofDigitChars 10 ds 0

/-- The worth of one digit. -/
def digitValue (c : Char) : Nat := c.toNat - '0'.toNat

def ofNat (n : Nat) : String := String.ofList (digits n)

def ofInt : Int → String
  | .ofNat n => ofNat n
  | .negSucc n => "-" ++ ofNat (n + 1)

/-- Whether a minus sign stands in front, and the text behind a sign of either kind. -/
def splitSign : List Char → Bool × List Char
  | '+' :: rest => (false, rest)
  | '-' :: rest => (true, rest)
  | text => (false, text)

/-- Whether a text is a run of digits. -/
def isNumeral (text : List Char) : Bool := !text.isEmpty && text.all Char.isDigit

/-- The number that a run of digits stands for, which a plus sign may precede. -/
def toNat? (text : List Char) : Option Nat :=
  let digits := match text with
    | '+' :: rest => rest
    | text => text
  if isNumeral digits then some (valueOf digits) else none

/-- The number that a run of digits stands for, which a sign may precede. -/
def toInt? (text : List Char) : Option Int :=
  let (negative, digits) := splitSign text
  if isNumeral digits then
    let size := valueOf digits
    some (if negative then -size else size)
  else none

theorem splitSign_suffix (text : List Char) : (splitSign text).2 <:+ text := by
  unfold splitSign
  split
  · exact List.suffix_cons ..
  · exact List.suffix_cons ..
  · exact List.suffix_refl _

/-! ### Writing and reading back -/

@[simp] theorem valueOf_digits (n : Nat) : valueOf (digits n) = n :=
  Nat.ofDigitChars_ten_toDigits

theorem digits_injective {m n : Nat} (h : digits m = digits n) : m = n := by
  simpa using congrArg valueOf h

theorem isDigit_of_mem_digits {n : Nat} {c : Char} (h : c ∈ digits n) : c.isDigit = true :=
  Nat.isDigit_of_mem_toDigits (by decide) (by decide) h

theorem digits_ne_nil (n : Nat) : digits n ≠ [] := Nat.toDigits_ne_nil

theorem isNumeral_digits (n : Nat) : isNumeral (digits n) = true := by
  simpa [isNumeral, digits_ne_nil] using fun c hc => isDigit_of_mem_digits (n := n) hc

/-- Digits have no sign in front. -/
theorem splitSign_of_isNumeral {text : List Char} (h : isNumeral text = true) :
    splitSign text = (false, text) := by
  unfold splitSign
  split
  · simp [isNumeral] at h
  · simp [isNumeral] at h
  · rfl

@[simp] theorem toNat?_digits (n : Nat) : toNat? (digits n) = some n := by
  have h := isNumeral_digits n
  unfold toNat?
  split
  · next hd => simp [hd, isNumeral] at h
  · simp [h]

@[simp] theorem toList_ofNat (n : Nat) : (ofNat n).toList = digits n := String.toList_ofList

theorem ofNat_injective {m n : Nat} (h : ofNat m = ofNat n) : m = n :=
  digits_injective (by simpa using congrArg String.toList h)

theorem isDigit_of_mem_ofInt {n : Int} {c : Char} (h : c ∈ (ofInt n).toList) :
    c = '-' ∨ c.isDigit = true := by
  cases n with
  | ofNat n =>
    rw [ofInt, toList_ofNat] at h
    exact .inr (isDigit_of_mem_digits h)
  | negSucc n =>
    rw [ofInt, String.toList_append, toList_ofNat] at h
    exact (List.mem_append.mp h).imp List.mem_singleton.mp isDigit_of_mem_digits

theorem toInt?_ofInt (n : Int) : toInt? (ofInt n).toList = some n := by
  cases n with
  | ofNat n =>
    simp [toInt?, ofInt, splitSign_of_isNumeral (isNumeral_digits n), isNumeral_digits]
  | negSucc n => simp [toInt?, ofInt, splitSign, isNumeral_digits, Int.negSucc_eq]

theorem ofInt_injective {a b : Int} (h : ofInt a = ofInt b) : a = b :=
  Option.some.inj (by rw [← toInt?_ofInt a, h, toInt?_ofInt])

end SlotSwap.Text.Decimal
