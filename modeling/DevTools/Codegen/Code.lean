import DevTools.Codegen.Property

namespace DevTools.Codegen

def classDoc (description : Value) : Except Fault String := do
  let doc ← docstring description
  return if doc = "" then "" else Text.indent 4 doc ++ "\n"

def requiredFirst (properties : List PropertySpec) : List PropertySpec :=
  properties.filter (!·.optional.truthy) ++ properties.filter (·.optional.truthy)

def deprecationCode (style : Style) : String :=
  "@deprecated(version=\"" ++ style.version ++ "\")\n"

/-! ## Types -/

namespace TypeSpec

def wrapperBase (t : TypeSpec) (expand : Expansion) : Except Fault (String × String) := do
  match t.items with
  | some items => return (listHint (← element expand items.type items.ref).typeHint, "list")
  | none =>
    let name := primitiveName (← primitiveOf t.type)
    return (name, name)

def primitiveCode (t : TypeSpec) (style : Style) : Except Fault String := do
  let id := t.id.plain
  let (hint, base) ← t.wrapperBase style.referenceName
  let doc ← classDoc t.description
  return "class " ++ id ++ "(" ++ base ++ "):\n" ++ doc ++
    Text.indent 4 (piece 12
      [ "def to_json(self) -> " ++ hint ++ ":",
        "    return self" ]) ++ "\n\n" ++
    Text.indent 4 (piece 12
      [ "@classmethod",
        "def from_json(cls, json: " ++ hint ++ ") -> " ++ id ++ ":",
        "    return cls(json)" ]) ++ "\n\n" ++
    Text.indent 4 (piece 12
      [ "def __repr__(self):",
        "    return '" ++ id ++ "(\x7b\x7d)'.format(super().__repr__())" ])

def memberCode (style : Style) (choice : Value) : Except Fault String := do
  let name ← style.snakeCase choice
  return Text.indent 4 (style.uppercase name ++ " = \"" ++ choice.plain ++ "\"\n")

def enumerationCode (t : TypeSpec) (style : Style) : Except Fault String := do
  let id := t.id.plain
  let doc ← classDoc t.description
  let members ← (← t.choices.items).mapM (memberCode style)
  return "class " ++ id ++ "(enum.Enum):\n" ++ doc ++ String.join members ++ "\n" ++
    Text.indent 4 (piece 12
      [ "def to_json(self) -> str:",
        "    return self.value" ]) ++ "\n\n" ++
    Text.indent 4 (piece 12
      [ "@classmethod",
        "def from_json(cls, json: str) -> " ++ id ++ ":",
        "    return cls(json)" ])

def fieldArgument (style : Style) (p : PropertySpec) : Except Fault String := do
  let code ← p.decoderCode style .field "json"
  return (← style.snakeCase p.name) ++ "=" ++ code ++ ","

def recordCode (t : TypeSpec) (style : Style) : Except Fault String := do
  let id := t.id.plain
  let doc ← classDoc t.description
  let properties := requiredFirst t.properties
  let declarations ← properties.mapM (·.declaration style .field)
  let assignments ← properties.mapM (·.encoderCode style "self." "json")
  let arguments ← properties.mapM (fieldArgument style)
  let toJson := piece 12
      [ "def to_json(self) -> T_JSON_DICT:",
        "    json: T_JSON_DICT = dict()",
        "" ] ++ Text.indent 4 (String.intercalate "\n" assignments) ++ "\n" ++
    Text.indent 4 "return json"
  let fromJson := piece 12
      [ "@classmethod",
        "def from_json(cls, json: T_JSON_DICT) -> " ++ id ++ ":",
        "    return cls(",
        "" ] ++ Text.indent 8 (String.intercalate "\n" arguments) ++ "\n" ++ Text.indent 4 ")"
  return piece 12 ["@dataclass", "class " ++ id ++ ":", ""] ++ doc ++
    String.intercalate "\n\n" (declarations.map (Text.indent 4)) ++ "\n\n" ++
    Text.indent 4 toJson ++ "\n\n" ++ Text.indent 4 fromJson

def code (t : TypeSpec) (style : Style) : Except Fault String :=
  if t.choices.truthy then t.enumerationCode style
  else if t.properties.isEmpty then t.primitiveCode style
  else t.recordCode style

end TypeSpec

/-! ## Commands -/

namespace CommandSpec

def resultHint (c : CommandSpec) (style : Style) : Except Fault String := do
  match ← c.returns.mapM (·.typeHint style.referenceName .returned) with
  | [] => return "None"
  | [hint] => return hint
  | hints => return "typing.Tuple[" ++ String.intercalate ", " hints ++ "]"

def headCode (c : CommandSpec) (style : Style) : Except Fault String := do
  let result ← c.resultHint style
  let name ← style.snakeCase c.name
  let closing := ") -> typing.Generator[T_JSON_DICT,T_JSON_DICT," ++ result ++ "]:\n"
  let arguments ← (requiredFirst c.parameters).mapM (·.argument style)
  return (if c.deprecated.truthy then deprecationCode style else "") ++ "def " ++ name ++ "(" ++
    if arguments.isEmpty then closing
    else "\n" ++ Text.indent 8 (String.intercalate ",\n" arguments) ++ "\n" ++
      Text.indent 4 closing

def extend (description : Value) (s : String) : Except Fault Value :=
  match description with
  | .text t => .ok (.text (t ++ s))
  | .list items => .ok (.list (items ++ Value.characters s))
  | v => .error (.refusesText v.kindName)

def resultDoc (c : CommandSpec) : Except Fault String := do
  match c.returns with
  | [] => return ""
  | [result] => return "\n:returns: " ++ (← result.returnDoc)
  | results =>
    let docs ← results.zipIdx.mapM fun (result, index) => do
      return toString index ++ ". **" ++ result.name.plain ++ "** - " ++ (← result.returnDoc)
    return "\n:returns: A tuple with the following items:\n\n" ++
      Text.indent 4 (String.intercalate "\n" docs)

/-- The documentation of the command, which is escaped as a whole. -/
def documentation (c : CommandSpec) (style : Style) : Except Fault Value := do
  let start := if c.description.truthy then c.description else .text ""
  let noted ← if c.deprecated.truthy then extend start ("\n\n.. deprecated:: " ++ style.version)
    else .ok start
  let noted ← if c.experimental.truthy then extend noted "\n\n**EXPERIMENTAL**" else .ok noted
  let divided ←
    if c.parameters.isEmpty then if c.returns.isEmpty then .ok noted else extend noted "\n"
    else if noted.truthy then extend noted "\n\n" else .ok noted
  let parameters ← c.parameters.mapM (·.parameterDoc style)
  extend (← extend divided (String.intercalate "\n" parameters)) (← c.resultDoc)

def bodyCode (c : CommandSpec) (style : Style) : Except Fault String := do
  let assignments ← c.parameters.mapM (·.encoderCode style "" "params")
  let results ← c.returns.mapM (·.returnCode style .returned "json")
  return (if c.parameters.isEmpty then "" else "\n    params: T_JSON_DICT = dict()\n") ++
    Text.indent 4 (String.intercalate "\n" assignments) ++ "\n" ++
    Text.indent 4 "cmd_dict: T_JSON_DICT = \x7b\n" ++
    Text.indent 8 ("'method': '" ++ c.domain.plain ++ "." ++ c.name.plain ++ "',\n") ++
    (if c.parameters.isEmpty then "" else "        'params': params,\n") ++
    Text.indent 4 "\x7d\n" ++ Text.indent 4 "json = yield cmd_dict" ++
    match results with
    | [] => ""
    | [result] => Text.indent 4 ("\nreturn " ++ result)
    | results =>
      Text.indent 4 ("\nreturn (\n" ++ Text.indent 4 (String.intercalate ",\n" results) ++ "\n)")

def code (c : CommandSpec) (style : Style) : Except Fault String := do
  let head ← c.headCode style
  let doc ← docstring (← c.documentation style)
  return head ++ Text.indent 4 doc ++ (← c.bodyCode style)

end CommandSpec

/-! ## Events -/

namespace EventSpec

def documentation (e : EventSpec) : Except Fault String := do
  let note := if e.experimental.truthy then "**EXPERIMENTAL**\n\n" else ""
  if e.description.truthy then
    match e.description with
    | .text s => return note ++ s
    | v => .error (.notAppendable v.kindName)
  else return note

def code (e : EventSpec) (style : Style) : Except Fault String := do
  let name ← style.camelized e.name
  let doc ← classDoc (.text (← e.documentation))
  let declarations ← e.parameters.mapM (·.declaration style .parameter)
  let arguments ← e.parameters.mapM (·.decoderCode style .parameter "json")
  let fromJson := piece 12
      [ "@classmethod",
        "def from_json(cls, json: T_JSON_DICT) -> " ++ name ++ ":",
        "    return cls(",
        "" ]
  return (if e.deprecated.truthy then deprecationCode style else "") ++
    piece 12
      [ "@event_class('" ++ e.domain.plain ++ "." ++ e.name.plain ++ "')",
        "@dataclass",
        "class " ++ name ++ ":" ] ++ "\n" ++ doc ++
    Text.indent 4 (String.intercalate "\n" declarations) ++ "\n\n" ++
    Text.indent 4 fromJson ++ Text.indent 12 (String.intercalate ",\n" arguments) ++ "\n" ++
    Text.indent 8 ")"

end EventSpec

/-! ## References -/

def addRef (ref : Value) (refs : List Value) : Except Fault (List Value) :=
  match ref.keyFault? with
  | some fault => .error fault
  | none => .ok (if refs.any (·.agrees ref) then refs else refs ++ [ref])

def PropertySpec.reference? (p : PropertySpec) : Option Value :=
  match p.items with
  | some items =>
    if items.ref.truthy then some items.ref else if p.ref.truthy then some p.ref else none
  | none => if p.ref.truthy then some p.ref else none

def propertyRefs : List PropertySpec → List Value → Except Fault (List Value)
  | [], refs => .ok refs
  | p :: rest, refs => do
    match p.reference? with
    | some ref => propertyRefs rest (← addRef ref refs)
    | none => propertyRefs rest refs

def TypeSpec.refs (t : TypeSpec) : Except Fault (List Value) :=
  if t.choices.truthy then .ok []
  else if t.properties.isEmpty then
    match t.items with
    | some items => if items.ref.truthy then addRef items.ref [] else .ok []
    | none => .ok []
  else propertyRefs t.properties []

def CommandSpec.refs (c : CommandSpec) : Except Fault (List Value) :=
  propertyRefs (c.parameters ++ c.returns) []

def EventSpec.refs (e : EventSpec) : Except Fault (List Value) :=
  propertyRefs e.parameters []

def sortRefs (refs : List Value) : List Value :=
  refs.mergeSort fun a b => !decide (b.plain < a.plain)

/-! ## Domains -/

namespace DomainSpec

def refs (d : DomainSpec) : Except Fault (List Value) := do
  let types ← d.types.mapM TypeSpec.refs
  let commands ← d.commands.mapM CommandSpec.refs
  let events ← d.events.mapM EventSpec.refs
  return (types ++ commands ++ events).flatten

def usesDeprecation (d : DomainSpec) : Bool :=
  d.commands.any (·.deprecated.truthy) || d.events.any (·.deprecated.truthy)

def dependency? (d : DomainSpec) (style : Style) (ref : Value) : Except Fault (Option String) :=
  match ref with
  | .text s =>
    match s.toList.splitOn '.' with
    | [domain, _] =>
      if d.domain.isText (String.ofList domain) then .ok none
      else some <$> style.snakeCase (.text (String.ofList domain))
    | _ => .ok none
  | v => .error (.noAttribute v.kindName "split")

def importedModules (d : DomainSpec) (style : Style) : Except Fault (List String) := do
  let found ← (← d.refs).mapM (d.dependency? style)
  return (found.filterMap id).eraseDups.mergeSort fun a b => !decide (b < a)

def importCode (d : DomainSpec) (style : Style) : Except Fault String := do
  let modules ← d.importedModules style
  return String.intercalate "\n" (modules.map ("from . import " ++ ·)) ++
    if d.usesDeprecation then "\nfrom deprecated.sphinx import deprecated # type: ignore" else ""

def headerCode (d : DomainSpec) : String :=
  "# DO NOT EDIT THIS FILE!\n#\n" ++
  "# This file is generated from the CDP specification. If you need to make\n" ++
  "# changes, edit the generator and regenerate all of the modules.\n#\n" ++
  "# CDP domain: " ++ d.domain.plain ++
    (if d.experimental.truthy then " (experimental)" else "") ++ "\n\n" ++
  "from __future__ import annotations\n" ++
  "from cdp.util import event_class, T_JSON_DICT\n" ++
  "from dataclasses import dataclass\nimport enum\nimport typing\n\n"

def code (d : DomainSpec) (style : Style) : Except Fault String := do
  let imports ← d.importCode style
  let types ← d.types.mapM (·.code style)
  let commands ← d.commands.mapM (·.code style)
  let events ← d.events.mapM (·.code style)
  return d.headerCode ++ (if imports = "" then "" else imports ++ "\n\n") ++ "\n" ++
    String.intercalate "\n\n\n" (types ++ commands ++ events) ++ "\n"

end DomainSpec

end DevTools.Codegen
