import DevTools.Number.Numeral
import DevTools.Value.Access

namespace DevTools.Value

def isWritable : Value → Bool
  | int n => (Nat.toDigits 10 n.natAbs).length ≤ Numeral.maxDigits
  | _ => true

def toText (v : Value) : Except Fault String :=
  if v.all isWritable then .ok v.plain else .error .longNumeral

def spelledFault (v : Value) (fault : Fault) : Fault :=
  if v.all isWritable then fault else .longNumeral

def parseInteger (v : Value) (radix : Nat) (s : String) : Except Fault Int :=
  match Numeral.integer radix s with
  | .ok n => .ok n
  | .error .malformed => .error (.malformedInteger radix v)
  | .error (.tooLong digits) => .error (.longInteger digits)

def toInteger (v : Value) : Except Fault Int :=
  match v.core with
  | bool b => .ok (if b then 1 else 0)
  | int n => .ok n
  | float (.finite x) => .ok x.truncate
  | float (.infinite _) => .error .infinityAsInteger
  | float (.nan _) => .error .nanAsInteger
  | text s => v.parseInteger 10 s
  | _ => .error (.notInteger v.kindName)

def toIndex (v : Value) : Except Fault Int :=
  match v.core with
  | bool b => .ok (if b then 1 else 0)
  | int n => .ok n
  | _ => .error (.notIndex v.kindName)

def finiteOnly : Binary64 → Except Fault Binary64
  | .finite x => .ok (.finite x)
  | _ => .error .integerOutOfRange

def integerToNumber (n : Int) : Except Fault Binary64 :=
  finiteOnly (Binary64.ofInt n)

/-- A number that is not wrapped is kept as it is; any other conversion makes a new number. -/
def toNumber (v : Value) : Except Fault Binary64 :=
  match v with
  | float x => .ok x
  | wrapped _ (float x) => .ok x.unmarked
  | _ =>
    match v.core with
    | bool b => integerToNumber (if b then 1 else 0)
    | int n => integerToNumber n
    | text s =>
      match Numeral.binary64? s with
      | some x => .ok x
      | none => .error (.malformedNumber v)
    | _ => .error (.notNumber v.kindName)

def insertPair (index : Nat) (item : Value) (entries : List (Value × Value)) :
    Except Fault (List (Value × Value)) :=
  match item.items with
  | .error _ => .error (.entryNotSequence index)
  | .ok [key, value] =>
    match key.keyFault? with
    | some fault => .error fault
    | none => .ok (insert key value entries)
  | .ok parts => .error (.entryLength index parts.length)

def insertPairs (index : Nat) : List Value → List (Value × Value) →
    Except Fault (List (Value × Value))
  | [], entries => .ok entries
  | item :: rest, entries => do insertPairs (index + 1) rest (← insertPair index item entries)

def toEntries (v : Value) : Except Fault (List (Value × Value)) :=
  match v.core with
  | dict entries => .ok entries
  | _ => do insertPairs 0 (← v.items) []

end DevTools.Value
