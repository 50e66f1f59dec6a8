import DevTools.Value.Basic

/-!
# Object store

Instances of records and events can be changed and shared. The store holds the current fields of
every object by its number. A value refers to an object by that number; reading the value brings the
fields up to date. Adopting a value numbers the objects in it that are new, and marks its new NaNs.
-/

namespace DevTools

structure Object where
  fields : List (String × Value)
  extras : List (String × Value)

def setNamed (name : String) (v : Value) : List (String × Value) → List (String × Value)
  | [] => [(name, v)]
  | (n, w) :: rest => if n == name then (n, v) :: rest else (n, w) :: setNamed name v rest

def Object.assign (object : Object) (name : String) (v : Value) : Object :=
  if (object.fields.lookup name).isSome then
    { object with fields := setNamed name v object.fields }
  else { object with extras := setNamed name v object.extras }

/-- A member of an enumeration is one object wherever it occurs, so its added fields are held by its
type and name. -/
structure Store where
  objects : Array Object := #[]
  marks : Nat := 0
  memberExtras : List ((TypeName × String) × List (String × Value)) := []

namespace Store

/-! ## Adopting values -/

mutual

def adopt : Value → Store → Value × Store
  | .float (.nan none), s => (.float (.nan (some s.marks)), { s with marks := s.marks + 1 })
  | .list items, s => let (items, s) := adoptItems items s; (.list items, s)
  | .tuple items, s => let (items, s) := adoptItems items s; (.tuple items, s)
  | .dict entries, s => let (entries, s) := adoptEntries entries s; (.dict entries, s)
  | .wrapped type base, s => let (base, s) := adopt base s; (.wrapped type base, s)
  | .object type fields none, s =>
    let (fields, s) := adoptFields fields s
    (.object type fields (some s.objects.size), { s with objects := s.objects.push ⟨fields, []⟩ })
  | v, s => (v, s)
termination_by structural v => v

def adoptItems : List Value → Store → List Value × Store
  | [], s => ([], s)
  | v :: rest, s =>
    let (v, s) := adopt v s
    let (rest, s) := adoptItems rest s
    (v :: rest, s)
termination_by structural items => items

def adoptEntries : List (Value × Value) → Store → List (Value × Value) × Store
  | [], s => ([], s)
  | (k, v) :: rest, s =>
    let (k, s) := adopt k s
    let (v, s) := adopt v s
    let (rest, s) := adoptEntries rest s
    ((k, v) :: rest, s)
termination_by structural entries => entries

def adoptFields : List (String × Value) → Store → List (String × Value) × Store
  | [], s => ([], s)
  | (name, v) :: rest, s =>
    let (v, s) := adopt v s
    let (rest, s) := adoptFields rest s
    ((name, v) :: rest, s)
termination_by structural fields => fields

end

/-! ## Reading values -/

mutual

def graft (current : Nat → Option (List (String × Value))) : Value → Value
  | .list items => .list (graftItems current items)
  | .tuple items => .tuple (graftItems current items)
  | .dict entries => .dict (graftEntries current entries)
  | .wrapped type base => .wrapped type (graft current base)
  | .object type fields (some id) => .object type ((current id).getD fields) (some id)
  | .object type fields none => .object type (graftFields current fields) none
  | v => v
termination_by structural v => v

def graftItems (current : Nat → Option (List (String × Value))) : List Value → List Value
  | [] => []
  | v :: rest => graft current v :: graftItems current rest
termination_by structural items => items

def graftEntries (current : Nat → Option (List (String × Value))) :
    List (Value × Value) → List (Value × Value)
  | [] => []
  | (k, v) :: rest => (graft current k, graft current v) :: graftEntries current rest
termination_by structural entries => entries

def graftFields (current : Nat → Option (List (String × Value))) :
    List (String × Value) → List (String × Value)
  | [] => []
  | (name, v) :: rest => (name, graft current v) :: graftFields current rest
termination_by structural fields => fields

end

def readTo (s : Store) : (depth : Nat) → Value → Value
  | 0, v => v
  | depth + 1, v =>
    graft (fun id => s.objects[id]?.map fun object =>
      object.fields.map fun (name, w) => (name, readTo s depth w)) v

/-- Brings a value up to date. Objects that do not contain themselves are never nested deeper than
their number. -/
def read (s : Store) (v : Value) : Value :=
  s.readTo s.objects.size v

/-! ## Fields -/

def assign (s : Store) (id : Nat) (name : String) (v : Value) : Store :=
  { s with objects := s.objects.modify id fun object => object.assign name v }

def extrasOfMember (s : Store) (type : TypeName) (member : String) : List (String × Value) :=
  (s.memberExtras.lookup (type, member)).getD []

def assignMember (s : Store) (type : TypeName) (member name : String) (v : Value) : Store :=
  let extras := setNamed name v (s.extrasOfMember type member)
  { s with memberExtras := ((type, member), extras) :: s.memberExtras }

def field? (s : Store) (id : Nat) (name : String) : Option Value := do
  let object ← s.objects[id]?
  object.fields.lookup name <|> object.extras.lookup name

end Store

end DevTools
