import DevTools.Fault
import DevTools.Value.Equality

namespace DevTools.Value

def items (v : Value) : Except Fault (List Value) :=
  match v.core with
  | text s => .ok (characters s)
  | list xs => .ok xs
  | tuple xs => .ok xs
  | dict entries => .ok (entries.map (·.1))
  | _ => .error (.notIterable v.kindName)

def subscriptFault (v : Value) : Fault :=
  match v.core with
  | text _ => .textSubscript
  | list _ => .sequenceSubscript "list"
  | tuple _ => .sequenceSubscript "tuple"
  | _ => .notSubscriptable v.kindName

def lookup? (key : String) (entries : List (Value × Value)) : Option Value :=
  (entries.find? fun entry => entry.1.isText key).map (·.2)

def entry (v : Value) (key : String) : Except Fault Value :=
  match v.core with
  | dict entries =>
    match lookup? key entries with
    | some value => .ok value
    | none => .error (.missingKey (text key))
  | _ => .error v.subscriptFault

def occursIn (part : List Char) : List Char → Bool
  | [] => part.isEmpty
  | c :: rest => part.isPrefixOf (c :: rest) || occursIn part rest

def holds (v : Value) (key : String) : Except Fault Bool :=
  match v.core with
  | text s => .ok (occursIn key.toList s.toList)
  | list xs => .ok (xs.any (·.isText key))
  | tuple xs => .ok (xs.any (·.isText key))
  | dict entries => .ok (entries.any (·.1.isText key))
  | _ => .error (.notSearchable v.kindName)

/-! ## Keys -/

mutual

def keyFault? : Value → Option Fault
  | tuple xs => keysFault? xs
  | list _ => some (.unhashable "list")
  | dict _ => some (.unhashable "dict")
  | wrapped type (list _) => some (.unhashable type.name)
  | wrapped type (dict _) => some (.unhashable type.name)
  | object type _ _ => some (.unhashable type.name)
  | _ => none
termination_by structural v => v

def keysFault? : List Value → Option Fault
  | [] => none
  | v :: rest => keyFault? v <|> keysFault? rest
termination_by structural items => items

end

/-- A later entry replaces the value of an agreeing key, and leaves the key and its place. -/
def insert (key value : Value) : List (Value × Value) → List (Value × Value)
  | [] => [(key, value)]
  | (k, v) :: rest => if agrees k key then (k, value) :: rest else (k, v) :: insert key value rest

end DevTools.Value
