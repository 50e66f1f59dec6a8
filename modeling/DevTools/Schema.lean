import DevTools.Value.Basic

/-!
# Protocol schemas

A protocol is a list of domains. A domain declares types, commands and events. Everything that is
read from a message or written to one is described by slots: the key of an entry, the shape of its
value, and whether it may be missing.
-/

namespace DevTools

inductive Primitive where
  | text | integer | number | boolean | dict | any
deriving DecidableEq

/-- A reference to a declared type. A reference that is spelled with the name of the domain it
stands in does not resolve, since a domain's own name is not in scope there. -/
structure Reference where
  target : TypeName
  selfNamed : Bool := false
deriving DecidableEq

inductive Item where
  | primitive (kind : Primitive)
  | reference (ref : Reference)
deriving DecidableEq

namespace Item

def text : Item := .primitive .text

def integer : Item := .primitive .integer

def number : Item := .primitive .number

def boolean : Item := .primitive .boolean

def dict : Item := .primitive .dict

def any : Item := .primitive .any

def ref (domain name : String) : Item := .reference ⟨⟨domain, name⟩, false⟩

def selfNamed (domain name : String) : Item := .reference ⟨⟨domain, name⟩, true⟩

end Item

inductive Shape where
  | one (item : Item)
  | many (item : Item)
deriving DecidableEq

structure Slot where
  key : String
  shape : Shape
  isOptional : Bool
deriving DecidableEq

namespace Slot

def required (key : String) (shape : Shape) : Slot := ⟨key, shape, false⟩

def optional (key : String) (shape : Shape) : Slot := ⟨key, shape, true⟩

end Slot

structure Field extends Slot where
  name : String
deriving DecidableEq

namespace Field

def required (name key : String) (shape : Shape) : Field := ⟨.required key shape, name⟩

def optional (name key : String) (shape : Shape) : Field := ⟨.optional key shape, name⟩

end Field

inductive Base where
  | text | integer | number | list | dict
deriving DecidableEq

structure Event where
  name : String
  method : String
  fields : List Field
  deprecated : Bool := false
deriving DecidableEq

inductive Declaration where
  | wrapper (name : String) (base : Base)
  | enumeration (name : String) (members : List (String × String))
  | record (name : String) (fields : List Field)
  | event (event : Event)
deriving DecidableEq

def Declaration.name : Declaration → String
  | .wrapper name _ => name
  | .enumeration name _ => name
  | .record name _ => name
  | .event e => e.name

/-- The parameters of a command stand in the order in which they are sent. -/
structure Command where
  name : String
  method : String
  parameters : List Field
  returns : List Slot
  deprecated : Bool := false
deriving DecidableEq

structure Domain where
  name : String
  scope : String
  types : List Declaration
  commands : List Command
  events : List Event

structure Protocol where
  domains : List Domain

namespace Domain

def declaration? (d : Domain) (name : String) : Option Declaration :=
  (d.types.find? fun declaration => declaration.name == name) <|>
    (d.events.find? fun event => event.name == name).map .event

def command? (d : Domain) (name : String) : Option Command :=
  d.commands.find? fun command => command.name == name

end Domain

namespace Protocol

def domain? (p : Protocol) (scope : String) : Option Domain :=
  p.domains.find? fun domain => domain.scope == scope

def declaration? (p : Protocol) (type : TypeName) : Option Declaration := do
  (← p.domain? type.domain).declaration? type.name

def command? (p : Protocol) (scope name : String) : Option Command := do
  (← p.domain? scope).command? name

def member? (p : Protocol) (type : TypeName) (name : String) : Option Value :=
  match p.declaration? type with
  | some (.enumeration _ members) =>
    (members.find? fun m => m.1 == name).map fun (name, wire) => .member type name wire
  | _ => none

end Protocol

end DevTools
