import DevTools.Number.Binary64

namespace DevTools

structure TypeName where
  domain : String
  name : String
deriving DecidableEq

def TypeName.text (type : TypeName) : String :=
  type.domain ++ "." ++ type.name

/-- A dynamic value. A dictionary keeps the order of its entries, and its keys may be any values.
An instance of a record or event type may carry the number of the object that holds its current
fields. -/
inductive Value where
  | null
  | bool (b : Bool)
  | int (n : Int)
  | float (x : Binary64)
  | text (s : String)
  | list (items : List Value)
  | tuple (items : List Value)
  | dict (entries : List (Value × Value))
  | wrapped (type : TypeName) (base : Value)
  | member (type : TypeName) (name : String) (wire : String)
  | object (type : TypeName) (fields : List (String × Value)) (id : Option Nat)

namespace Value

instance : Inhabited Value := ⟨null⟩

def core : Value → Value
  | wrapped _ base => base
  | v => v

@[simp]
theorem core_wrapped (type : TypeName) (base : Value) : (wrapped type base).core = base := rfl

def kindName : Value → String
  | null => "NoneType"
  | bool _ => "bool"
  | int _ => "int"
  | float _ => "float"
  | text _ => "str"
  | list _ => "list"
  | tuple _ => "tuple"
  | dict _ => "dict"
  | wrapped type _ => type.name
  | member type _ _ => type.name
  | object type _ _ => type.name

def isNull : Value → Bool
  | null => true
  | _ => false

def characters (s : String) : List Value :=
  s.toList.map fun c => text (String.singleton c)

def truthy (v : Value) : Bool :=
  match v.core with
  | null => false
  | bool b => b
  | int n => n != 0
  | float x => !x.isZero
  | text s => s != ""
  | list items => !items.isEmpty
  | tuple items => !items.isEmpty
  | dict entries => !entries.isEmpty
  | _ => true

/-! ## Wire form -/

mutual

def wire : Value → Value
  | wrapped _ base => wire base
  | list items => list (wireItems items)
  | tuple items => tuple (wireItems items)
  | dict entries => dict (wireEntries entries)
  | object type fields id => object type (wireFields fields) id
  | v => v
termination_by structural v => v

def wireItems : List Value → List Value
  | [] => []
  | v :: rest => wire v :: wireItems rest
termination_by structural items => items

def wireEntries : List (Value × Value) → List (Value × Value)
  | [] => []
  | (k, v) :: rest => (wire k, wire v) :: wireEntries rest
termination_by structural entries => entries

def wireFields : List (String × Value) → List (String × Value)
  | [] => []
  | (name, v) :: rest => (name, wire v) :: wireFields rest
termination_by structural fields => fields

end

/-! ## Tests of a value with all its parts -/

mutual

def all (test : Value → Bool) : Value → Bool
  | list items => test (list items) && allItems test items
  | tuple items => test (tuple items) && allItems test items
  | dict entries => test (dict entries) && allEntries test entries
  | wrapped type base => test (wrapped type base) && all test base
  | object type fields id => test (object type fields id) && allFields test fields
  | v => test v
termination_by structural v => v

def allItems (test : Value → Bool) : List Value → Bool
  | [] => true
  | v :: rest => all test v && allItems test rest
termination_by structural items => items

def allEntries (test : Value → Bool) : List (Value × Value) → Bool
  | [] => true
  | (k, v) :: rest => all test k && all test v && allEntries test rest
termination_by structural entries => entries

def allFields (test : Value → Bool) : List (String × Value) → Bool
  | [] => true
  | (_, v) :: rest => all test v && allFields test rest
termination_by structural fields => fields

end

end Value

end DevTools
