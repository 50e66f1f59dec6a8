import DevTools.Schema
import DevTools.Value.Access

namespace DevTools

def encodeFieldsWith (write : Field → Except Fault (Option Value)) :
    List Field → Except Fault (List (Value × Value))
  | [] => .ok []
  | field :: rest => do
    let value? ← write field
    let entries ← encodeFieldsWith write rest
    match value? with
    | some value => return (.text field.key, value) :: entries
    | none => return entries

namespace Protocol

variable (p : Protocol)

def notEncodable (v : Value) : Fault :=
  .noAttribute v.kindName "to_json"

/-- A text that is not empty stands for characters, which are no instances. -/
def encodeCharacters (s : String) : Except Fault (List Value) :=
  if s = "" then .ok [] else .error (notEncodable (.text s))

mutual

/-- Writes an instance of a wrapper, an enumeration or a record. Events are never written. -/
def encode : Value → Except Fault Value
  | .wrapped type base => .ok (.wrapped type base)
  | .member _ _ wire => .ok (.text wire)
  | .object type values id =>
    match p.declaration? type with
    | some (.record _ fields) =>
      .dict <$> encodeFieldsWith (fun field => encodeField values field) fields
    | _ => .error (notEncodable (.object type values id))
  | v => .error (notEncodable v)
termination_by structural v => v

def encodeAll : Value → Except Fault (List Value)
  | .list items => encodeItems items
  | .tuple items => encodeItems items
  | .dict entries => encodeKeys entries
  | .text s => encodeCharacters s
  | .wrapped _ (.list items) => encodeItems items
  | .wrapped _ (.tuple items) => encodeItems items
  | .wrapped _ (.dict entries) => encodeKeys entries
  | .wrapped _ (.text s) => encodeCharacters s
  | v => .error (.notIterable v.kindName)
termination_by structural v => v

def encodeItems : List Value → Except Fault (List Value)
  | [] => .ok []
  | v :: rest => do
    let value ← encode v
    let values ← encodeItems rest
    return value :: values
termination_by structural items => items

def encodeKeys : List (Value × Value) → Except Fault (List Value)
  | [] => .ok []
  | (k, _) :: rest => do
    let value ← encode k
    let values ← encodeKeys rest
    return value :: values
termination_by structural entries => entries

def encodeField : List (String × Value) → Field → Except Fault (Option Value)
  | [], _ => .ok none
  | (name, v) :: rest, field =>
    if name == field.name then
      if field.isOptional && v.isNull then .ok none
      else
        match field.shape with
        | .one (.primitive _) => .ok (some v)
        | .one (.reference _) => some <$> encode v
        | .many (.primitive _) => (fun items => some (.list items)) <$> v.items
        | .many (.reference _) => (fun items => some (.list items)) <$> encodeAll v
    else encodeField rest field
termination_by structural values => values

end

def encodeFields (fields : List Field) (values : List (String × Value)) :
    Except Fault (List (Value × Value)) :=
  encodeFieldsWith (p.encodeField values) fields

/-! ## The encoder in terms of the parts of a value -/

theorem encodeKeys_eq (entries : List (Value × Value)) :
    p.encodeKeys entries = p.encodeItems (entries.map (·.1)) := by
  induction entries with
  | nil => rfl
  | cons entry rest ih => simp only [encodeKeys, List.map_cons, encodeItems, ih]

theorem encodeCharacters_eq (s : String) :
    encodeCharacters s = p.encodeItems (Value.characters s) := by
  unfold encodeCharacters Value.characters
  split
  · next h => subst h; rfl
  · next h =>
    cases hs : s.toList with
    | nil => exact absurd (String.toList_eq_nil_iff.1 hs) h
    | cons c rest => rfl

theorem encodeAll_eq (v : Value) :
    p.encodeAll v = (v.items >>= fun items => p.encodeItems items) := by
  cases v with
  | dict entries => exact p.encodeKeys_eq entries
  | text s => exact p.encodeCharacters_eq s
  | wrapped type base =>
    cases base with
    | dict entries => exact p.encodeKeys_eq entries
    | text s => exact p.encodeCharacters_eq s
    | _ => rfl
  | _ => rfl

end Protocol

end DevTools
