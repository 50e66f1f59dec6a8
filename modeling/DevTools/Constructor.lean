import DevTools.Call
import DevTools.Wrapper

namespace DevTools

def enumerationSignature : Signature where
  function := "EnumType.__call__"
  receiver := some "cls"
  required := ["value"]
  optional := ["names"]
  namedOnly := ["module", "qualname", "type", "start", "boundary"]

/-- The member with a wire value. Given the names of new members, the value would name an extension
of the enumeration, and a type to mix in would have to be one. -/
def constructMember (type : TypeName) (members : List (String × String))
    (arguments : List (String × Value)) : Except Fault Value :=
  let argument := fun name => (arguments.lookup name).getD .null
  if (argument "names").isNull then decodeMember type members (argument "value")
  else if (argument "type").isNull then
    let name := argument "value"
    .error (name.spelledFault (.notExtensible name type.name))
  else .error (.noAttribute (argument "type").kindName "__mro__")

def instanceParameter : String := "self"

def Event.signature (event : Event) : Signature :=
  ⟨event.name ++ ".__init__", some instanceParameter, event.fields.map (·.name), [], []⟩

def recordSignature (name : String) (fields : List Field) : Signature :=
  .ofFields (name ++ ".__init__") (some instanceParameter) fields

namespace Protocol

variable (p : Protocol)

def construct (type : TypeName) (positional : List Value) (named : List (String × Value)) :
    Except Fault Value :=
  match p.declaration? type with
  | some (.wrapper _ base) => .wrapped type <$> base.construct positional named
  | some (.enumeration _ members) => do
    constructMember type members (← enumerationSignature.bind positional named)
  | some (.record name fields) => do
    return .object type (← (recordSignature name fields).bind positional named) none
  | some (.event event) => do
    return .object type (← event.signature.bind positional named) none
  | none => .error (.undefinedName type.name)

def notices (type : TypeName) : List Notice :=
  match p.declaration? type with
  | some (.event event) => if event.deprecated then [.deprecatedEvent event.name] else []
  | _ => []

end Protocol

end DevTools
