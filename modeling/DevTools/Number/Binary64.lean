/-!
# Binary64 numbers

A finite number is `± significand · 2 ^ exponent` units, where a unit is `2 ^ -1074`, the least
positive number of the format. In these units every finite number is an integer, so that it can be
compared with an integer exactly.
-/

namespace DevTools

namespace Binary64

def maxExponent : Nat := 2045

def Canonical (significand exponent : Nat) : Prop :=
  significand < Nat.pow 2 53 ∧ exponent ≤ maxExponent ∧ (exponent = 0 ∨ Nat.pow 2 52 ≤ significand)

instance (significand exponent : Nat) : Decidable (Canonical significand exponent) :=
  inferInstanceAs (Decidable (_ ∧ _ ∧ _))

structure Finite where
  negative : Bool
  significand : Nat
  exponent : Nat
  canonical : Canonical significand exponent := by decide
deriving DecidableEq

inductive Amount where
  | finite (units : Int)
  | infinite (negative : Bool)
deriving DecidableEq

def Amount.ofInt (n : Int) : Amount :=
  .finite (n * Int.ofNat (Nat.pow 2 1074))

end Binary64

/-- A NaN may carry a mark that tells it from the other NaNs of a program run. -/
inductive Binary64 where
  | finite (number : Binary64.Finite)
  | infinite (negative : Bool)
  | nan (mark : Option Nat)
deriving DecidableEq

namespace Binary64

def Finite.magnitude (x : Finite) : Nat :=
  x.significand * Nat.pow 2 x.exponent

def Finite.units (x : Finite) : Int :=
  if x.negative then -(x.magnitude : Int) else x.magnitude

def Finite.truncate (x : Finite) : Int :=
  let whole : Nat := x.magnitude / Nat.pow 2 1074
  if x.negative then -(whole : Int) else whole

def amount? : Binary64 → Option Amount
  | .finite x => some (.finite x.units)
  | .infinite negative => some (.infinite negative)
  | .nan _ => none

def isZero : Binary64 → Bool
  | .finite x => x.significand = 0
  | _ => false

def unmarked : Binary64 → Binary64
  | .nan _ => .nan none
  | x => x

def zero (negative : Bool) : Binary64 :=
  .finite ⟨negative, 0, 0, by decide⟩

/-! ## Rounding -/

def divNearest (a b : Nat) : Nat :=
  let q := a / b
  let r := a % b
  if 2 * r < b then q else if b < 2 * r then q + 1 else q + q % 2

def pack (negative : Bool) (significand exponent : Nat) : Binary64 :=
  if h : Canonical significand exponent then .finite ⟨negative, significand, exponent, h⟩
  else .infinite negative

def ofRatio (negative : Bool) (num den : Nat) : Binary64 :=
  let units := num * Nat.pow 2 1074
  let exponent := (units / den).log2 - 52
  let significand := divNearest units (den * Nat.pow 2 exponent)
  -- Rounding up may carry into one more binary digit.
  if significand = Nat.pow 2 53 then pack negative (Nat.pow 2 52) (exponent + 1)
  else pack negative significand exponent

def ofInt (n : Int) : Binary64 :=
  ofRatio (n < 0) n.natAbs 1

def digitCount (n : Nat) : Nat :=
  (Nat.toDigits 10 n).length

/-- The number nearest to `digits · 10 ^ exponent`. Magnitudes from `10 ^ 400` on are infinite and
those below `10 ^ -400` vanish, so that no larger power of ten is ever computed. -/
def ofDecimal (negative : Bool) (digits : Nat) (exponent : Int) : Binary64 :=
  let scale := exponent + digitCount digits
  if digits = 0 || scale < -400 then zero negative
  else if 400 < scale then .infinite negative
  else ofRatio negative (digits * Nat.pow 10 exponent.toNat) (Nat.pow 10 (-exponent).toNat)

end Binary64

end DevTools
