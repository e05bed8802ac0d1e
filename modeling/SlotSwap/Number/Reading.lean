import SlotSwap.Number.Binary
import SlotSwap.Text.Decimal

/-! Reading floating-point numbers.

The text is an optional sign and then a decimal, with or without a point and an
exponent, or one of the words for infinity and for no number. A decimal becomes the
nearest number of the precision asked for, and infinity beyond the largest. -/
namespace SlotSwap.Number
open Text

/-- A run of digits at the front, and what follows it. -/
def spanDigits (text : List Char) : List Char × List Char :=
  (text.takeWhile Char.isDigit, text.dropWhile Char.isDigit)

/-- The power of ten behind `e`, or none at all if nothing is left. -/
def readPower : List Char → Option Int
  | [] => some 0
  | e :: rest => if e.toLower = 'e' then Decimal.toInt? rest else none

/-- The nearest number to `coefficient * 10 ^ exponent`, for a coefficient of so many
digits. Far beyond the numbers of any precision no power is formed. -/
def Precision.ofDecimal (p : Precision) (negative : Bool) (coefficient digits : Nat)
    (exponent : Int) : Binary :=
  if coefficient = 0 ∨ exponent + digits < -400 then .finite negative 0
  else if 400 < exponent + digits then .infinite negative
  else
    let steps :=
      p.nearest (coefficient * Nat.pow 10 exponent.toNat * one) (Nat.pow 10 (-exponent).toNat)
    if p.holds steps then .finite negative steps else .infinite negative

/-- A decimal without its sign. -/
def Precision.readDecimal (p : Precision) (negative : Bool) (text : List Char) : Option Binary :=
  let (whole, rest) := spanDigits text
  let (places, rest) := match rest with
    | '.' :: rest => spanDigits rest
    | rest => ([], rest)
  if whole = [] ∧ places = [] then none
  else do
    let power ← readPower rest
    let digits := (whole ++ places).dropWhile (· = '0')
    return p.ofDecimal negative (Decimal.valueOf digits) digits.length (power - places.length)

/-- The number that a text stands for, if it is the text of one. -/
def Precision.read (p : Precision) (text : String) : Option Binary :=
  let (negative, unsigned) := Decimal.splitSign text.toList
  let word := String.ofList (unsigned.map Char.toLower)
  if word = "inf" ∨ word = "infinity" then some (.infinite negative)
  else if word = "nan" then some .nan
  else p.readDecimal negative unsigned

end SlotSwap.Number
