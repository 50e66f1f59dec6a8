import DevTools.Number.Shortest
import DevTools.Text.Quoted
import DevTools.Value.Basic

/-!
# Text of values

`literal` spells a value out with its type, so that a text is quoted and an instance of a declared
type shows its name. `plain` is the same except that a text stands for itself and a member of an
enumeration is written without its wire value.
-/

namespace DevTools.Value

def enclose (left right : String) (parts : List String) : String :=
  left ++ String.intercalate ", " parts ++ right

mutual

def literal : Value → String
  | null => "None"
  | bool b => if b then "True" else "False"
  | int n => toString n
  | float x => x.text
  | text s => Text.quoted s
  | list items => enclose "[" "]" (literals items)
  | tuple [item] => "(" ++ literal item ++ ",)"
  | tuple items => enclose "(" ")" (literals items)
  | dict entries => enclose "\x7b" "\x7d" (entryLiterals entries)
  | wrapped type base => type.name ++ "(" ++ literal base ++ ")"
  | member type name wire => "<" ++ type.name ++ "." ++ name ++ ": " ++ Text.quoted wire ++ ">"
  | object type fields _ => enclose (type.name ++ "(") ")" (fieldLiterals fields)
termination_by structural v => v

def literals : List Value → List String
  | [] => []
  | v :: rest => literal v :: literals rest
termination_by structural items => items

def entryLiterals : List (Value × Value) → List String
  | [] => []
  | (k, v) :: rest => (literal k ++ ": " ++ literal v) :: entryLiterals rest
termination_by structural entries => entries

def fieldLiterals : List (String × Value) → List String
  | [] => []
  | (name, v) :: rest => (name ++ "=" ++ literal v) :: fieldLiterals rest
termination_by structural fields => fields

end

def plain : Value → String
  | text s => s
  | wrapped _ (text s) => s
  | member type name _ => type.name ++ "." ++ name
  | v => literal v

end DevTools.Value
