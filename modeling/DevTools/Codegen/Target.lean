import DevTools.Codegen.Builtin
import DevTools.Codegen.Spec
import DevTools.Schema

namespace DevTools.Codegen

inductive Element where
  | primitive (kind : Primitive)
  | reference (name : String)
deriving DecidableEq

structure Target where
  element : Element
  repeated : Bool
  optional : Bool
deriving DecidableEq

def primitiveOf (type : Value) : Except Fault Primitive :=
  match type.keyFault? with
  | some fault => .error fault
  | none =>
    if type.isText "any" then .ok .any
    else if type.isText "boolean" then .ok .boolean
    else if type.isText "integer" then .ok .integer
    else if type.isText "number" then .ok .number
    else if type.isText "object" then .ok .dict
    else if type.isText "string" then .ok .text
    else .error (.missingKey type)

abbrev Expansion := Value → Except Fault String

/-- A reference into another domain is written with the name of its module; one with more than one
point is refused. -/
def Style.referenceName (style : Style) : Expansion := fun ref => do
  if ← ref.holds "." then
    match ref with
    | .text s =>
      match s.toList.splitOn '.' with
      | [domain, type] =>
        let module ← style.snakeCase (.text (String.ofList domain))
        return module ++ "." ++ String.ofList type
      | _ => .error .overqualifiedReference
    | v => .error (.noAttribute v.kindName "split")
  else return ref.plain

def element (expand : Expansion) (type ref : Value) : Except Fault Element :=
  if ref.truthy then .reference <$> expand ref else .primitive <$> primitiveOf type

def PropertySpec.target (p : PropertySpec) (expand : Expansion) : Except Fault Target := do
  match p.items with
  | some items => return ⟨← element expand items.type items.ref, true, p.optional.truthy⟩
  | none => return ⟨← element expand p.type p.ref, false, p.optional.truthy⟩

/-! ## Type hints -/

def primitiveName : Primitive → String
  | .text => "str"
  | .integer => "int"
  | .number => "float"
  | .boolean => "bool"
  | .dict => "dict"
  | .any => "typing.Any"

def Element.typeHint : Element → String
  | .primitive kind => primitiveName kind
  | .reference name => name

def listHint (item : String) : String :=
  "typing.List[" ++ item ++ "]"

def optionalHint (held : String) : String :=
  "typing.Optional[" ++ held ++ "]"

def Target.typeHint (t : Target) : String :=
  let whole := if t.repeated then listHint t.element.typeHint else t.element.typeHint
  if t.optional then optionalHint whole else whole

/-! ## Decoding expressions -/

inductive Expr where
  | entry (dict key : String)
  | item
  | convert (kind : Primitive) (argument : Expr)
  | decode (type : String) (argument : Expr)
  | each (body source : Expr)
  | ifPresent (value : Expr) (key dict : String)
deriving DecidableEq

def loopVariable : String := "i"

def conversionCode (kind : Primitive) (argument : String) : String :=
  primitiveName kind ++ "(" ++ argument ++ ")"

def constructorCode (type argument : Value) : Except Fault Value := do
  match ← primitiveOf type with
  | .any => return argument
  | kind => return .text (conversionCode kind argument.plain)

def Expr.render : Expr → String
  | .entry dict key => dict ++ "['" ++ key ++ "']"
  | .item => loopVariable
  | .convert kind argument => conversionCode kind argument.render
  | .decode type argument => type ++ ".from_json(" ++ argument.render ++ ")"
  | .each body source =>
    "[" ++ body.render ++ " for " ++ loopVariable ++ " in " ++ source.render ++ "]"
  | .ifPresent value key dict => value.render ++ " if '" ++ key ++ "' in " ++ dict ++ " else None"

def Element.decoder (e : Element) (argument : Expr) : Expr :=
  match e with
  | .primitive .any => argument
  | .primitive kind => .convert kind argument
  | .reference name => .decode name argument

def Target.decoder (t : Target) (dict key : String) : Expr :=
  let entry := Expr.entry dict key
  let value := if t.repeated then .each (t.element.decoder .item) entry else t.element.decoder entry
  if t.optional then .ifPresent value key dict else value

def PropertySpec.decoder (p : PropertySpec) (expand : Expansion) (dict : String) :
    Except Fault String := do
  return ((← p.target expand).decoder dict p.name.plain).render

end DevTools.Codegen
