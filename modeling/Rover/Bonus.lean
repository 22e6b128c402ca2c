import Rover.Text.Numeral

/-!
The bonus for memory left unused: one and a quarter credits a byte.  Amounts are
held with 53 significant binary places, halves going to the even neighbour, so
the bytes are rounded first and their product with the rate once more.  Both are
counted in quarters, which makes every step a step on whole numbers.
-/

namespace Rover

/-- The number of `bits` significant binary places that is nearest to `n`, a tie
going to the even one. -/
def roundToBits (bits n : Nat) : Nat :=
  let unit := Nat.pow 2 (n.log2 + 1 - bits)
  let quotient := n / unit
  let excess := 2 * (n % unit)
  if unit < excess ∨ (unit = excess ∧ quotient % 2 = 1) then
    (quotient + 1) * unit
  else quotient * unit

inductive Bonus
  | quarters (negative : Bool) (count : Nat)
  | unbounded (negative : Bool)
  deriving DecidableEq

namespace Bonus

def precision : Nat := 53

def ceiling : Nat := Nat.pow 2 1024

def ofBytes? (bytes : Int) : Option Bonus :=
  let whole := roundToBits precision bytes.natAbs
  if ceiling ≤ whole then none
  else
    let quarters := roundToBits precision (5 * whole)
    let negative := decide (bytes < 0)
    if 4 * ceiling ≤ quarters then some (.unbounded negative)
    else some (.quarters negative quarters)

/-- Sets a comma after every third digit, counted from the lowest, which comes
first. -/
def groupThousands : List Char → List Char
  | a :: b :: c :: d :: rest => a :: b :: c :: ',' :: groupThousands (d :: rest)
  | cs => cs

def places : Nat → String
  | 0 => ".00"
  | 1 => ".25"
  | 2 => ".50"
  | _ => ".75"

def signText (negative : Bool) : String :=
  if negative then "-" else ""

def text : Bonus → String
  | .quarters negative count =>
    let digits :=
      (groupThousands (Numeral.writeNat (count / 4)).reverse).reverse
    signText negative ++ String.ofList digits ++ places (count % 4)
  | .unbounded negative => signText negative ++ "inf"

end Bonus

end Rover
