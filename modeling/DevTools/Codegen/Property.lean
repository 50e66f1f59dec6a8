import DevTools.Codegen.Comment
import DevTools.Codegen.Target

namespace DevTools.Codegen

/-- Rows are written behind a margin, which is taken off once the names are filled in. -/
def piece (width : Nat) (rows : List String) : String :=
  let margin := String.ofList (List.replicate width ' ')
  Text.dedent (String.intercalate "\n" (rows.map (margin ++ ·)))

/-- What a property belongs to: a record, the parameters of a command or event, or the values that a
command returns. -/
inductive Role where
  | field | parameter | returned
deriving DecidableEq

def Role.name : Role → String
  | .field => "CdpProperty"
  | .parameter => "CdpParameter"
  | .returned => "CdpReturn"

namespace PropertySpec

variable (p : PropertySpec)

/-! ## Type hints -/

def fieldHint (expand : Expansion) : Except Fault String :=
  Target.typeHint <$> p.target expand

def returnHint (expand : Expansion) : Except Fault String :=
  -- Returned values have a dispatch of their own, beside that of the target.
  let hint := match p.items with
    | some items =>
      if items.ref.truthy then listHint <$> expand items.ref
      else (listHint ∘ primitiveName) <$> primitiveOf items.type
    | none => if p.ref.truthy then expand p.ref else primitiveName <$> primitiveOf p.type
  if p.optional.truthy then optionalHint <$> hint else hint

def typeHint (expand : Expansion) : Role → Except Fault String
  | .returned => p.returnHint expand
  | _ => p.fieldHint expand

/-! ## Declarations -/

def declaration (style : Style) (role : Role) : Except Fault String := do
  let comment ← inlineDoc p.description
  let name ← style.snakeCase p.name
  let hint ← p.typeHint style.referenceName role
  return (if comment = "" then "" else comment ++ "\n") ++ name ++ ": " ++ hint ++
    (if p.optional.truthy && role != .parameter then " = None" else "")

def argument (style : Style) : Except Fault String := do
  let hint ← p.fieldHint style.referenceName
  let name ← style.snakeCase p.name
  return name ++ ": " ++ hint ++ (if p.optional.truthy then " = None" else "")

/-! ## Decoding and encoding -/

def decoderCode (style : Style) (role : Role) (dict : String) : Except Fault String := do
  let code ← p.decoder style.referenceName dict
  match role with
  | .parameter => return (← style.snakeCase p.name) ++ "=" ++ code
  | _ => return code

def returnCode (style : Style) (role : Role) (dict : String) : Except Fault String :=
  match role with
  | .returned => p.decoder style.referenceName dict
  | _ => .error (.noAttribute role.name "generate_return")

def encoderCode (style : Style) (owner dict : String) : Except Fault String := do
  let source := owner ++ (← style.snakeCase p.name)
  let value := match p.items with
    | some items =>
      let item := if items.ref.truthy then loopVariable ++ ".to_json()" else loopVariable
      "[" ++ item ++ " for " ++ loopVariable ++ " in " ++ source ++ "]"
    | none => if p.ref.truthy then source ++ ".to_json()" else source
  let assignment := dict ++ "['" ++ p.name.plain ++ "'] = " ++ value
  return if p.optional.truthy then
      piece 16 ["if " ++ source ++ " is not None:", "    " ++ assignment]
    else assignment

/-! ## Documentation -/

def oneLine (text : List Char) : List Char :=
  text.map fun c => if c = '\n' then ' ' else c

def returnDoc : Except Fault String := do
  match ← descriptionText? p.description with
  | some s =>
    let doc := String.ofList (oneLine s.toList)
    return if p.optional.truthy then "*(Optional)* " ++ doc else doc
  | none => return ""

def parameterDoc (style : Style) : Except Fault String := do
  let name ← style.snakeCase p.name
  let description ← descriptionText? p.description
  let doubled (c : Char) := if c = backtick then [backtick, backtick] else [c]
  return ":param " ++ name ++ ":" ++
    (if p.deprecated.truthy then " **(DEPRECATED)**" else "") ++
    (if p.experimental.truthy then " **(EXPERIMENTAL)**" else "") ++
    (if p.optional.truthy then " *(Optional)*" else "") ++
    match description with
    | some s => " " ++ String.ofList (oneLine (s.toList.flatMap doubled))
    | none => ""

def doc (style : Style) (role : Role) : Except Fault String :=
  match role with
  | .returned => p.returnDoc
  | .parameter => p.parameterDoc style
  | .field => .error (.noAttribute role.name "generate_doc")

end PropertySpec

end DevTools.Codegen
