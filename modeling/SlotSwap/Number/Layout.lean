import SlotSwap.Number.Shortest
import SlotSwap.Text.Decimal

/-! Floating-point numbers as text.

The digits are the shortest that read back; a `Layout` decides how they are laid
out: what an exact tie between two shortest decimals becomes, and which magnitudes
are written with the point among the digits and which with an exponent. A number
written with its point always has a digit on both sides of it. -/
namespace SlotSwap.Number
open Text

structure Layout where
  tie : Tie
  /-- The powers of ten, least and greatest, of leading digits that are written without an
  exponent; all are when there are no bounds. -/
  bounds : Option (Int × Int)
deriving DecidableEq, Repr

namespace Layout

/-- The digits with the point among them, the last one worth `10 ^ exponent`. -/
def positional (digits : List Char) (exponent : Int) : List Char :=
  if 0 ≤ exponent then digits ++ List.replicate exponent.toNat '0' ++ ['.', '0']
  else
    let places := (-exponent).toNat
    let padded := List.replicate (places + 1 - digits.length) '0' ++ digits
    let whole := padded.length - places
    padded.take whole ++ '.' :: padded.drop whole

/-- The first digit, the point and the rest if there is any, and the signed power of ten. -/
def scientific (digits : List Char) (leading : Int) : List Char :=
  let point := if digits.length ≤ 1 then [] else ['.']
  digits.take 1 ++ point ++ digits.drop 1 ++ 'e' :: (if leading < 0 then '-' else '+')
    :: Decimal.digits leading.natAbs

def magnitude (layout : Layout) (steps : Nat) : List Char :=
  if steps = 0 then ['0', '.', '0']
  else
    let number := shortest layout.tie steps
    let digits := Decimal.digits number.coefficient
    let leading := number.exponent + digits.length - 1
    match layout.bounds with
    | some (least, greatest) =>
      if least ≤ leading ∧ leading ≤ greatest then positional digits number.exponent
      else scientific digits leading
    | none => positional digits number.exponent

def chars (layout : Layout) : Binary → List Char
  | .finite negative steps => (if negative then ['-'] else []) ++ layout.magnitude steps
  | .infinite negative => (if negative then ['-'] else []) ++ ['i', 'n', 'f']
  | .nan => ['N', 'a', 'N']

def render (layout : Layout) (number : Binary) : String := String.ofList (layout.chars number)

end SlotSwap.Number.Layout
