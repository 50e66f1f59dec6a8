import DevTools.Codec.Decode

namespace DevTools

/-- The options of a base. None of them has to be given. An option without a name is given by
position. -/
structure Options where
  base : String
  names : List (Option String)

namespace Options

def repeated? (o : Options) (given : Nat) (named : List (String × Value)) :
    Option (String × Nat) :=
  ((o.names.take given).zipIdx 1).findSome? fun (name?, position) => do
    let name ← name?
    if (named.lookup name).isSome then some (name, position) else none

def unknown? (o : Options) (named : List (String × Value)) : Option String :=
  (named.map (·.1)).find? fun name => !o.names.contains (some name)

/-- The value of each option that is given. A surplus of arguments is noticed first, then an option
that is given twice, then an unknown name. -/
def bind (o : Options) (positional : List Value) (named : List (String × Value)) :
    Except Fault (List (Option Value)) :=
  let count := positional.length + named.length
  if o.names.length < count then
    .error (.surplusOptions o.base o.names.length count positional.isEmpty)
  else
    match o.repeated? positional.length named, o.unknown? named with
    | some (name, position), _ => .error (.repeatedOption o.base name position)
    | none, some name => .error (.keywordRefused o.base name)
    | none, none =>
      .ok (positional.map some ++
        (o.names.drop positional.length).map fun name? => do named.lookup (← name?))

end Options

namespace Base

def name : Base → String
  | .text => "str"
  | .integer => "int"
  | .number => "float"
  | .list => "list"
  | .dict => "dict"

def empty : Base → Value
  | .text => .text ""
  | .integer => .int 0
  | .number => .float (Binary64.zero false)
  | .list => .list []
  | .dict => .dict []

/-! ## Texts -/

def textOptions : Options := ⟨"str", [some "object", some "encoding", some "errors"]⟩

def checkCodec (option : String) : Option Value → Except Fault Unit
  | none => .ok ()
  | some v =>
    match v.core with
    | .text s => if s.toList.contains '\x00' then .error .embeddedNull else .ok ()
    | .null => .error (.optionNotText "str" option "None")
    | _ => .error (.optionNotText "str" option v.kindName)

/-- A way of decoding asks for bytes, which no value has. -/
def constructText (object? encoding? errors? : Option Value) : Except Fault String := do
  checkCodec "encoding" encoding?
  checkCodec "errors" errors?
  match object? with
  | none => return ""
  | some v =>
    if encoding?.isNone && errors?.isNone then v.toText
    else
      match v.core with
      | .text _ => .error .textWithEncoding
      | _ => .error (.notBytes v.kindName)

/-! ## Integers -/

def integerOptions : Options := ⟨"int", [none, some "base"]⟩

def readRadix (v : Value) : Except Fault Nat := do
  let radix ← v.toIndex
  if radix = 0 || (2 ≤ radix && radix ≤ 36) then return radix.toNat
  else .error .radixOutOfRange

def constructInteger (object? radix? : Option Value) : Except Fault Int :=
  match object?, radix? with
  | none, none => .ok 0
  | none, some _ => .error .missingNumeral
  | some v, none => v.toInteger
  | some v, some r => do
    let radix ← readRadix r
    match v.core with
    | .text s => v.parseInteger radix s
    | _ => .error .radixOfNonText

/-! ## All bases -/

def constructPlain (base : Base) (positional : List Value) (named : List (String × Value)) :
    Except Fault Value :=
  match named, positional with
  | _ :: _, _ => .error (.keywordsRefused base.name)
  | [], [] => .ok base.empty
  | [], [v] => base.convert v
  | [], _ => .error (.surplusBaseArguments base.name positional.length)

def constructEntries (positional : List Value) (named : List (String × Value)) :
    Except Fault (List (Value × Value)) := do
  let entries ← match positional with
    | [] => .ok []
    | [v] => v.toEntries
    | _ => .error (.surplusBaseArguments Base.dict.name positional.length)
  return named.foldl (fun es (name, v) => Value.insert (.text name) v es) entries

def construct (base : Base) (positional : List Value) (named : List (String × Value)) :
    Except Fault Value :=
  match base with
  | .text => do
    let options ← textOptions.bind positional named
    .text <$> constructText options[0]?.join options[1]?.join options[2]?.join
  | .integer => do
    let options ← integerOptions.bind positional named
    .int <$> constructInteger options[0]?.join options[1]?.join
  | .number => constructPlain .number positional named
  | .list => constructPlain .list positional named
  | .dict => .dict <$> constructEntries positional named

end Base

end DevTools
