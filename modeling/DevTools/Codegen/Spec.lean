import DevTools.Value.Access

namespace DevTools.Codegen

structure ItemSpec where
  type : Value
  ref : Value

structure PropertySpec where
  name : Value
  description : Value
  type : Value
  ref : Value
  choices : Value
  items : Option ItemSpec
  optional : Value
  experimental : Value
  deprecated : Value

structure TypeSpec where
  id : Value
  description : Value
  type : Value
  items : Option ItemSpec
  choices : Value
  properties : List PropertySpec

structure CommandSpec where
  name : Value
  description : Value
  experimental : Value
  deprecated : Value
  parameters : List PropertySpec
  returns : List PropertySpec
  domain : Value

structure EventSpec where
  name : Value
  description : Value
  deprecated : Value
  experimental : Value
  parameters : List PropertySpec
  domain : Value

structure DomainSpec where
  domain : Value
  description : Value
  experimental : Value
  dependencies : Value
  types : List TypeSpec
  commands : List CommandSpec
  events : List EventSpec

/-! ## Reading -/

def fieldOr (default : Value) (v : Value) (key : String) : Except Fault Value :=
  match v.core with
  | .dict entries => .ok ((Value.lookup? key entries).getD default)
  | _ => .error (.noAttribute v.kindName "get")

def field (v : Value) (key : String) : Except Fault Value :=
  fieldOr .null v key

def flag (v : Value) (key : String) : Except Fault Value :=
  fieldOr (.bool false) v key

def readEach {α : Type} (read : Value → Except Fault α) : List Value → Except Fault (List α)
  | [] => .ok []
  | v :: rest => do
    let a ← read v
    let as ← readEach read rest
    return a :: as

def readList {α : Type} (read : Value → Except Fault α) (v : Value) : Except Fault (List α) := do
  readEach read (← v.items)

namespace ItemSpec

def read (v : Value) : Except Fault ItemSpec := do
  let type ← field v "type"
  let ref ← field v "$ref"
  return { type, ref }

def read? (v : Value) : Except Fault (Option ItemSpec) := do
  if ← v.holds "items" then some <$> read (← v.entry "items")
  else return none

end ItemSpec

def PropertySpec.read (v : Value) : Except Fault PropertySpec := do
  let name ← v.entry "name"
  let description ← field v "description"
  let type ← field v "type"
  let ref ← field v "$ref"
  let choices ← field v "enum"
  let items ← ItemSpec.read? v
  let optional ← flag v "optional"
  let experimental ← flag v "experimental"
  let deprecated ← flag v "deprecated"
  return { name, description, type, ref, choices, items, optional, experimental, deprecated }

def TypeSpec.read (v : Value) : Except Fault TypeSpec := do
  let id ← v.entry "id"
  let description ← field v "description"
  let type ← v.entry "type"
  let items ← ItemSpec.read? v
  let choices ← field v "enum"
  let properties ← readList PropertySpec.read (← fieldOr (.list []) v "properties")
  return { id, description, type, items, choices, properties }

def CommandSpec.read (domain v : Value) : Except Fault CommandSpec := do
  let parameters ← fieldOr (.list []) v "parameters"
  let returns ← fieldOr (.list []) v "returns"
  let name ← v.entry "name"
  let description ← field v "description"
  let experimental ← flag v "experimental"
  let deprecated ← flag v "deprecated"
  let parameters ← readList PropertySpec.read parameters
  let returns ← readList PropertySpec.read returns
  return { name, description, experimental, deprecated, parameters, returns, domain }

def EventSpec.read (domain v : Value) : Except Fault EventSpec := do
  let name ← v.entry "name"
  let description ← field v "description"
  let deprecated ← flag v "deprecated"
  let experimental ← flag v "experimental"
  let parameters ← readList PropertySpec.read (← fieldOr (.list []) v "parameters")
  return { name, description, deprecated, experimental, parameters, domain }

def DomainSpec.read (v : Value) : Except Fault DomainSpec := do
  let types ← fieldOr (.list []) v "types"
  let commands ← fieldOr (.list []) v "commands"
  let events ← fieldOr (.list []) v "events"
  let domain ← v.entry "domain"
  let description ← field v "description"
  let experimental ← flag v "experimental"
  let dependencies ← fieldOr (.list []) v "dependencies"
  let types ← readList TypeSpec.read types
  let commands ← readList (CommandSpec.read domain) commands
  let events ← readList (EventSpec.read domain) events
  return { domain, description, experimental, dependencies, types, commands, events }

def supportedVersion : String × String := ("1", "3")

def versionText : String :=
  supportedVersion.1 ++ "." ++ supportedVersion.2

def readDocument (document : Value) : Except Fault (List DomainSpec) := do
  let version ← document.entry "version"
  let major ← version.entry "major"
  let minor ← version.entry "minor"
  if major.isText supportedVersion.1 && minor.isText supportedVersion.2 then
    readList DomainSpec.read (← document.entry "domains")
  else .error .unsupportedVersion

end DevTools.Codegen
