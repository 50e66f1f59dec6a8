import DevTools.Number.Binary64

/-!
# Shortest decimals

A number is written with the fewest digits that read back as the same number, and of the decimals
with that many digits with the nearest one. The decimals that read back are those of an interval
around the number; for each count of digits the two neighbours of the number on the decimal grid are
tried.
-/

namespace DevTools.Binary64

structure Decimal where
  digits : Nat
  exponent : Int

namespace Decimal

def numerator (d : Decimal) : Nat := d.digits * Nat.pow 10 d.exponent.toNat

def denominator (d : Decimal) : Nat := Nat.pow 10 (-d.exponent).toNat

end Decimal

/-- A quarter of a unit is the measure in which the ends of the interval are integers. -/
def Finite.quarters (x : Finite) : Nat :=
  4 * x.magnitude

def quarterScale : Nat := Nat.pow 2 1076

def Finite.lowerEnd (x : Finite) : Nat :=
  -- Below the least significand of an exponent the numbers are twice as dense.
  let gap := if x.significand = Nat.pow 2 52 && 0 < x.exponent then 1 else 2
  x.quarters - gap * Nat.pow 2 x.exponent

def Finite.upperEnd (x : Finite) : Nat :=
  x.quarters + 2 * Nat.pow 2 x.exponent

/-- The decimal rounds to `x`. The ends belong to the numbers with an even significand. -/
def Finite.admits (x : Finite) (d : Decimal) : Bool :=
  let value := d.numerator * quarterScale
  let lower := x.lowerEnd * d.denominator
  let upper := x.upperEnd * d.denominator
  if x.significand % 2 = 0 then lower ≤ value && value ≤ upper
  else lower < value && value < upper

def Finite.distance (x : Finite) (d : Decimal) : Nat :=
  let value := d.numerator * quarterScale
  let target := x.quarters * d.denominator
  (value - target) + (target - value)

def Finite.pointPosition (x : Finite) : Int :=
  (digitCount (x.quarters * Nat.pow 10 330 / quarterScale) : Int) - 330

def Finite.gridPoint (x : Finite) (count : Nat) : Decimal :=
  let exponent := x.pointPosition - count
  ⟨x.quarters * Nat.pow 10 (-exponent).toNat / (quarterScale * Nat.pow 10 exponent.toNat), exponent⟩

def Finite.candidate? (x : Finite) (count : Nat) : Option Decimal :=
  let below := x.gridPoint count
  let above : Decimal := ⟨below.digits + 1, below.exponent⟩
  match x.admits below, x.admits above with
  | true, true =>
    let left := x.distance below
    let right := x.distance above
    if left < right || (left = right && below.digits % 2 = 0) then some below else some above
  | true, false => some below
  | false, true => some above
  | false, false => none

def Decimal.significantDigits (d : Decimal) : List Char :=
  ((Nat.toDigits 10 d.digits).reverse.dropWhile (· = '0')).reverse

def Finite.shortest (x : Finite) : Decimal :=
  -- Seventeen digits always suffice.
  ((List.range 17).findSome? fun i => x.candidate? (i + 1)).getD (x.gridPoint 17)

/-! ## Layout -/

structure DecimalLayout where
  leastPosition : Int
  largestPosition : Int
  exponentWidth : Nat

/-- Numbers from `0.0001` up to below `10 ^ 16` are written without exponent, and an exponent has a
sign and two digits at least. -/
def messageLayout : DecimalLayout := ⟨-3, 16, 2⟩

def padLeft (width : Nat) (digits : List Char) : List Char :=
  List.replicate (width - digits.length) '0' ++ digits

def DecimalLayout.exponentChars (layout : DecimalLayout) (exponent : Int) : List Char :=
  (if exponent < 0 then ['e', '-'] else ['e', '+']) ++
    padLeft layout.exponentWidth (Nat.toDigits 10 exponent.natAbs)

def DecimalLayout.write (layout : DecimalLayout) (digits : List Char) (position : Int) : List Char :=
  if position < layout.leastPosition || layout.largestPosition < position then
    let fraction := digits.drop 1
    digits.take 1 ++ (if fraction.isEmpty then [] else '.' :: fraction) ++
      layout.exponentChars (position - 1)
  else if position ≤ 0 then
    ['0', '.'] ++ List.replicate (-position).toNat '0' ++ digits
  else
    let whole := digits.take position.toNat
    let fraction := digits.drop position.toNat
    whole ++ List.replicate (position.toNat - whole.length) '0' ++ ['.'] ++
      (if fraction.isEmpty then ['0'] else fraction)

def Finite.text (x : Finite) : String :=
  let magnitude : List Char :=
    if x.significand = 0 then ['0', '.', '0']
    else
      let d := x.shortest
      messageLayout.write d.significantDigits (d.exponent + digitCount d.digits)
  String.ofList (if x.negative then '-' :: magnitude else magnitude)

def text : Binary64 → String
  | .finite x => x.text
  | .infinite negative => if negative then "-inf" else "inf"
  | .nan _ => "nan"

end DevTools.Binary64
