import DevTools.Value.Basic

/-!
# Equality of values

Numbers are equal if they amount to the same, whether Boolean, integer or binary64; a NaN amounts to
nothing and equals no number. A wrapper does not count. Dictionaries are equal as maps. Inside a
list, dictionary or record a NaN also counts as equal to itself, that is, to a NaN of the same mark.
-/

namespace DevTools.Value

def amount? : Value → Option Binary64.Amount
  | bool b => some (.ofInt (if b then 1 else 0))
  | int n => some (.ofInt n)
  | float x => x.amount?
  | _ => none

def nanMark? (v : Value) : Option Nat :=
  match v.core with
  | float (.nan mark) => mark
  | _ => none

def isSameNaN (a b : Value) : Bool :=
  match a.nanMark?, b.nanMark? with
  | some i, some j => i == j
  | _, _ => false

def sameAmount (a b : Value) : Bool :=
  match a.amount?, b.amount? with
  | some x, some y => x == y
  | _, _ => false

mutual

def equals : Value → Value → Bool
  | wrapped _ base, b => equals base b
  | null, b => b.isNull
  | text s, b =>
    match b.core with
    | text r => s == r
    | _ => false
  | list items, b =>
    match b.core with
    | list others => equalItems items others
    | _ => false
  | tuple items, b =>
    match b with
    | tuple others => equalItems items others
    | _ => false
  | dict entries, b =>
    match b.core with
    | dict others => entries.length == others.length && equalEntries entries others
    | _ => false
  | member type name _, b =>
    match b with
    | member type' name' _ => type == type' && name == name'
    | _ => false
  | object type fields _, b =>
    match b with
    | object type' fields' _ => type == type' && equalFields fields fields'
    | _ => false
  | bool x, b => sameAmount (bool x) b.core
  | int n, b => sameAmount (int n) b.core
  | float x, b => sameAmount (float x) b.core
termination_by structural a => a

def equalItems : List Value → List Value → Bool
  | [], [] => true
  | a :: as, b :: bs => (isSameNaN a b || equals a b) && equalItems as bs
  | _, _ => false
termination_by structural as => as

def equalEntries : List (Value × Value) → List (Value × Value) → Bool
  | [], _ => true
  | (k, v) :: rest, others =>
    (match others.find? fun entry => isSameNaN k entry.1 || equals k entry.1 with
      | some entry => isSameNaN v entry.2 || equals v entry.2
      | none => false) && equalEntries rest others
termination_by structural entries => entries

def equalFields : List (String × Value) → List (String × Value) → Bool
  | [], [] => true
  | (_, a) :: as, (_, b) :: bs => (isSameNaN a b || equals a b) && equalFields as bs
  | _, _ => false
termination_by structural fields => fields

end

/-- Equality of two values as parts of others, in particular as keys. -/
def agrees (a b : Value) : Bool :=
  isSameNaN a b || equals a b

def isText (v : Value) (s : String) : Bool :=
  match v.core with
  | text r => r == s
  | _ => false

end DevTools.Value
