import DevTools.Exchange
import DevTools.Registry
import DevTools.Store
import DevTools.Value.Part

namespace DevTools

inductive Binding where
  | value (v : Value) (extras : List (String × Value))
  | exchange (e : Exchange)

structure Session where
  store : Store := {}
  registry : Registry
  bindings : List (String × Binding) := []

namespace Session

def view (s : Session) (v : Value) : Value :=
  s.store.read v

def adopt (s : Session) (v : Value) : Value × Session :=
  let (v, store) := s.store.adopt v
  (v, { s with store })

def setBinding (name : String) (binding : Binding) :
    List (String × Binding) → List (String × Binding)
  | [] => [(name, binding)]
  | (n, b) :: rest =>
    if n == name then (n, binding) :: rest else (n, b) :: setBinding name binding rest

def bind (s : Session) (name : String) (binding : Binding) : Session :=
  { s with bindings := setBinding name binding s.bindings }

def keep (s : Session) (name : String) (v : Value) : Session :=
  let (v, s) := s.adopt v
  s.bind name (.value v [])

def value? (s : Session) (name : String) : Option Value :=
  match s.bindings.lookup name with
  | some (.value v _) => some (s.view v)
  | _ => none

def exchange? (s : Session) (name : String) : Option Exchange :=
  match s.bindings.lookup name with
  | some (.exchange e) => some e
  | _ => none

/-! ## Commands -/

def resume (p : Protocol) (s : Session) (name : String) (sent : Value) (e : Exchange) :
    Reply × Session :=
  let (reply, e) := (e.mapArguments s.view).resume p sent
  (reply, s.bind name (.exchange e))

/-! ## Fields -/

/-- A member of an enumeration has its name and its value, then what was added to it, then the other
members. -/
def memberField? (p : Protocol) (store : Store) (type : TypeName) (name wire field : String) :
    Option Value :=
  if field == "name" then some (.text name)
  else if field == "value" then some (.text wire)
  else (store.extrasOfMember type name).lookup field <|> p.member? type field

def getField (p : Protocol) (s : Session) (name field : String) : Except Fault Value :=
  match s.bindings.lookup name with
  | some (.value v extras) =>
    let found? := match v with
      | .object _ _ (some id) => s.store.field? id field
      | .member type member wire => memberField? p s.store type member wire field
      | _ => v.part? field <|> extras.lookup field
    match found? with
    | some w => .ok (s.view w)
    | none => .error (.noAttribute v.kindName field)
  | _ => .error (.undefinedName name)

/-- Sets a field of the value under a name. Plain values take none. The parts of a number and what
identifies a member of an enumeration cannot be set. -/
def setField (s : Session) (name field : String) (w : Value) : Except Fault Session :=
  let (w, s) := s.adopt w
  match s.bindings.lookup name with
  | some (.value v extras) =>
    if (v.part? field).isSome then .error (.fixedPart v.numberName field)
    else
      match v with
      | .object _ _ (some id) => .ok { s with store := s.store.assign id field w }
      | .member type member _ =>
        if field == "name" || field == "value" then .error (.readOnlyAttribute field)
        else .ok { s with store := s.store.assignMember type member field w }
      | .wrapped _ _ => .ok (s.bind name (.value v (setNamed field w extras)))
      | _ => .error (.noAttribute v.kindName field)
  | _ => .error (.undefinedName name)

end Session

end DevTools
