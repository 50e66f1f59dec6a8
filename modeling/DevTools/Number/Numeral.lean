import DevTools.Number.Binary64
import DevTools.Text.Blank
import DevTools.Text.Digit

namespace DevTools.Numeral

def fold (c : Char) : Char :=
  if c.toNat < 127 then c
  else if Text.isBlank c then ' '
  else
    match Text.digit? c with
    | some d => Char.ofNat (48 + d)
    | none => c

def isPad (c : Char) : Bool :=
  c = ' ' || (0x9 ≤ c.toNat && c.toNat ≤ 0xd)

def trimLeft (cs : List Char) : List Char :=
  cs.dropWhile isPad

def trim (cs : List Char) : List Char :=
  (trimLeft (trimLeft cs).reverse).reverse

def splitSign : List Char → Bool × List Char
  | '-' :: rest => (true, rest)
  | '+' :: rest => (false, rest)
  | cs => (false, cs)

def digitValue? (c : Char) : Option Nat :=
  if c.isDigit then some (c.toNat - 48)
  else if 'a' ≤ c && c ≤ 'z' then some (c.toNat - 87)
  else if 'A' ≤ c && c ≤ 'Z' then some (c.toNat - 55)
  else none

def isDigitOf (radix : Nat) (c : Char) : Bool :=
  (digitValue? c).any (· < radix)

def valueOf (radix : Nat) (digits : List Char) : Nat :=
  digits.foldl (fun n c => radix * n + (digitValue? c).getD 0) 0

/-- Every low line stands between two digits; `afterDigit` tells whether a digit came last. -/
def linesBetweenDigits (isDigit : Char → Bool) : (afterDigit : Bool) → List Char → Bool
  | _, [] => true
  | afterDigit, '_' :: rest =>
    match rest with
    | [] => false
    | c :: _ => afterDigit && isDigit c && linesBetweenDigits isDigit false rest
  | _, c :: rest => linesBetweenDigits isDigit (isDigit c) rest

/-! ## Integers -/

inductive IntegerError where
  | malformed
  | tooLong (digits : Nat)

def maxDigits : Nat := 4300

def isUnlimited (radix : Nat) : Bool :=
  [2, 4, 8, 16, 32].contains radix

def markedRadix? : List Char → Option Nat
  | '0' :: c :: _ =>
    if c = 'x' || c = 'X' then some 16
    else if c = 'o' || c = 'O' then some 8
    else if c = 'b' || c = 'B' then some 2
    else none
  | _ => none

def dropLine : List Char → List Char
  | '_' :: rest => rest
  | cs => cs

/-- The radix to read a numeral in, and the numeral without its mark. Radix zero leaves the choice
to the mark, and is ten without one. -/
def splitMark (radix : Nat) (cs : List Char) : Nat × List Char :=
  match markedRadix? cs with
  | some marked =>
    if radix = 0 || radix = marked then (marked, dropLine (cs.drop 2)) else (radix, cs)
  | none => (if radix = 0 then 10 else radix, cs)

def hasIdleZero (radix : Nat) (cs : List Char) : Bool :=
  radix = 0 && cs.head? = some '0' && (markedRadix? cs).isNone

def integer (radix : Nat) (text : String) : Except IntegerError Int :=
  let (negative, cs) := splitSign (trimLeft (text.toList.map fold))
  let (base, numeral) := splitMark radix cs
  let run := numeral.takeWhile fun c => isDigitOf base c || c = '_'
  let digits := run.filter (isDigitOf base)
  if !linesBetweenDigits (isDigitOf base) false run then .error .malformed
  -- The digits are counted before anyone looks at what stands behind them.
  else if !isUnlimited base && maxDigits < digits.length then .error (.tooLong digits.length)
  else if digits.isEmpty || !(numeral.drop run.length).all isPad then .error .malformed
  else
    let n := valueOf base digits
    if hasIdleZero radix cs && n != 0 then .error .malformed
    else .ok (if negative then -(n : Int) else n)

/-! ## Binary64 numbers -/

def exponent? : List Char → Option Int
  | [] => some 0
  | c :: rest =>
    if c = 'e' || c = 'E' then
      let (negative, digits) := splitSign rest
      if digits.isEmpty || !digits.all Char.isDigit then none
      else
        let n := valueOf 10 digits
        some (if negative then -(n : Int) else n)
    else none

def decimal? (negative : Bool) (cs : List Char) : Option Binary64 := do
  let whole := cs.takeWhile Char.isDigit
  let rest := cs.drop whole.length
  let (fraction, rest) :=
    match rest with
    | '.' :: more =>
      let fraction := more.takeWhile Char.isDigit
      (fraction, more.drop fraction.length)
    | _ => ([], rest)
  if whole.isEmpty && fraction.isEmpty then none
  else
    let exponent ← exponent? rest
    some (Binary64.ofDecimal negative (valueOf 10 (whole ++ fraction)) (exponent - fraction.length))

def binary64? (text : String) : Option Binary64 :=
  let cs := trim (text.toList.map fold)
  if !linesBetweenDigits Char.isDigit false cs then none
  else
    let (negative, rest) := splitSign (cs.filter (· != '_'))
    let word := String.ofList (rest.map Char.toLower)
    if word = "inf" || word = "infinity" then some (.infinite negative)
    else if word = "nan" then some (.nan none)
    else decimal? negative rest

end DevTools.Numeral
