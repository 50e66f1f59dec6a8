import DevTools.Value.Basic

namespace DevTools.Value

def integerPart? (n : Int) (name : String) : Option Value :=
  if name == "real" || name == "numerator" then some (int n)
  else if name == "imag" then some (int 0)
  else if name == "denominator" then some (int 1)
  else none

def part? (v : Value) (name : String) : Option Value :=
  match v.core with
  | bool b => integerPart? (if b then 1 else 0) name
  | int n => integerPart? n name
  | float x =>
    if name == "real" then some (float x)
    else if name == "imag" then some (float (Binary64.zero false))
    else none
  | _ => none

def numberName (v : Value) : String :=
  match v.core with
  | float _ => "float"
  | _ => "int"

end DevTools.Value
