import DevTools.Schema
import DevTools.Value.Conversion

/-!
# Decoding

Reading a message into an instance of a declared type. One decoder serves all types: it interprets
their declarations. The recursion follows the message: an entry is decoded as a part of the
dictionary that holds it.
-/

namespace DevTools

def Primitive.convert (kind : Primitive) (v : Value) : Except Fault Value :=
  match kind with
  | .text => .text <$> v.toText
  | .integer => .int <$> v.toInteger
  | .number => .float <$> v.toNumber
  | .boolean => .ok (.bool v.truthy)
  | .dict => .dict <$> v.toEntries
  | .any => .ok v

def Base.convert (base : Base) (v : Value) : Except Fault Value :=
  match base with
  | .text => .text <$> v.toText
  | .integer => .int <$> v.toInteger
  | .number => (fun x => .float x.unmarked) <$> v.toNumber
  | .list => .list <$> v.items
  | .dict => .dict <$> v.toEntries

def decodeMember (type : TypeName) (members : List (String × String)) (v : Value) :
    Except Fault Value :=
  match v with
  -- A member is never taken for its wire value.
  | .member type' name wire =>
    if type' = type then .ok (.member type' name wire) else .error (v.spelledFault (.notMember v type.name))
  | _ =>
    match members.find? fun m => v.isText m.2 with
    | some (name, wire) => .ok (.member type name wire)
    | none => .error (v.spelledFault (.notMember v type.name))

/-- The domain name that a shape spells out of scope. It is noticed before the entry is read. -/
def Shape.unresolved? : Shape → Option String
  | .one (.reference ref) => if ref.selfNamed then some ref.target.domain else none
  | _ => none

abbrev EntryDecoder := String → Shape → Except Fault Value

def decodePresentWith (entry : EntryDecoder) (slot : Slot) : Except Fault Value :=
  match slot.shape.unresolved? with
  | some scope => .error (.undefinedName scope)
  | none => entry slot.key slot.shape

def decodeSlotWith (v : Value) (entry : EntryDecoder) (slot : Slot) : Except Fault Value :=
  if slot.isOptional then do
    if ← v.holds slot.key then decodePresentWith entry slot else return .null
  else decodePresentWith entry slot

def decodeFieldsWith (v : Value) (entry : EntryDecoder) :
    List Field → Except Fault (List (String × Value))
  | [] => .ok []
  | field :: rest => do
    let value ← decodeSlotWith v entry field.toSlot
    let values ← decodeFieldsWith v entry rest
    return (field.name, value) :: values

def decodeSlotsWith (v : Value) (entry : EntryDecoder) : List Slot → Except Fault (List Value)
  | [] => .ok []
  | slot :: rest => do
    let value ← decodeSlotWith v entry slot
    let values ← decodeSlotsWith v entry rest
    return value :: values

namespace Protocol

variable (p : Protocol)

def decodeItemWith (v : Value) (entry : EntryDecoder) : Item → Except Fault Value
  | .primitive kind => kind.convert v
  | .reference ref =>
    if ref.selfNamed then .error (.undefinedName ref.target.domain)
    else
      match p.declaration? ref.target with
      | some (.wrapper _ base) => .wrapped ref.target <$> base.convert v
      | some (.enumeration _ members) => decodeMember ref.target members v
      | some (.record _ fields) => do
        return .object ref.target (← decodeFieldsWith v entry fields) none
      | some (.event event) => do
        return .object ref.target (← decodeFieldsWith v entry event.fields) none
      | none => .error (.undefinedName ref.target.name)

def noEntry (v : Value) : EntryDecoder :=
  fun _ _ => .error v.subscriptFault

def decodeCharacters (item : Item) : List Char → Except Fault (List Value)
  | [] => .ok []
  | c :: rest => do
    let v := Value.text (String.singleton c)
    let value ← p.decodeItemWith v (noEntry v) item
    let values ← decodeCharacters item rest
    return value :: values

mutual

def decodeItem : Value → Item → Except Fault Value
  | .dict entries, item =>
    p.decodeItemWith (.dict entries) (fun key shape => decodeEntry entries key shape) item
  | .wrapped type (.dict entries), item =>
    p.decodeItemWith (.wrapped type (.dict entries))
      (fun key shape => decodeEntry entries key shape) item
  | v, item => p.decodeItemWith v (noEntry v) item
termination_by structural v => v

def decodeAll : Value → Item → Except Fault (List Value)
  | .list items, item => decodeItems items item
  | .tuple items, item => decodeItems items item
  | .dict entries, item => decodeKeys entries item
  | .text s, item => p.decodeCharacters item s.toList
  | .wrapped _ (.list items), item => decodeItems items item
  | .wrapped _ (.tuple items), item => decodeItems items item
  | .wrapped _ (.dict entries), item => decodeKeys entries item
  | .wrapped _ (.text s), item => p.decodeCharacters item s.toList
  | v, _ => .error (.notIterable v.kindName)
termination_by structural v => v

def decodeItems : List Value → Item → Except Fault (List Value)
  | [], _ => .ok []
  | v :: rest, item => do
    let value ← decodeItem v item
    let values ← decodeItems rest item
    return value :: values
termination_by structural items => items

def decodeKeys : List (Value × Value) → Item → Except Fault (List Value)
  | [], _ => .ok []
  | (k, _) :: rest, item => do
    let value ← decodeItem k item
    let values ← decodeKeys rest item
    return value :: values
termination_by structural entries => entries

def decodeEntry : List (Value × Value) → String → Shape → Except Fault Value
  | [], key, _ => .error (.missingKey (.text key))
  | (k, v) :: rest, key, shape =>
    if k.isText key then
      match shape with
      | .one item => decodeItem v item
      | .many item => .list <$> decodeAll v item
    else decodeEntry rest key shape
termination_by structural entries => entries

end

def entryDecoder : Value → EntryDecoder
  | .dict entries => p.decodeEntry entries
  | .wrapped _ (.dict entries) => p.decodeEntry entries
  | v => noEntry v

def decode (type : TypeName) (v : Value) : Except Fault Value :=
  p.decodeItem v (.reference ⟨type, false⟩)

def decodeSlots (slots : List Slot) (v : Value) : Except Fault (List Value) :=
  decodeSlotsWith v (p.entryDecoder v) slots

/-! ## The decoder in terms of the parts of a value -/

def decodeShape (v : Value) : Shape → Except Fault Value
  | .one item => p.decodeItem v item
  | .many item => .list <$> p.decodeAll v item

theorem decodeItem_eq (v : Value) (item : Item) :
    p.decodeItem v item = p.decodeItemWith v (p.entryDecoder v) item := by
  unfold decodeItem
  split
  · rfl
  · rfl
  · simp_all only [entryDecoder]

theorem decodeEntry_eq (entries : List (Value × Value)) (key : String) (shape : Shape) :
    p.decodeEntry entries key shape =
      match Value.lookup? key entries with
      | some v => p.decodeShape v shape
      | none => .error (.missingKey (.text key)) := by
  induction entries with
  | nil => rfl
  | cons entry rest ih =>
    obtain ⟨k, v⟩ := entry
    unfold decodeEntry
    cases h : k.isText key with
    | true => cases shape <;> simp [Value.lookup?, h, decodeShape]
    | false => simp only [Bool.false_eq_true, ↓reduceIte, ih]; simp [Value.lookup?, h]

theorem decodeEntry_eq_bind (entries : List (Value × Value)) (key : String) (shape : Shape) :
    p.decodeEntry entries key shape =
      ((Value.dict entries).entry key >>= fun w => p.decodeShape w shape) := by
  simp only [decodeEntry_eq, Value.entry, Value.core]
  cases Value.lookup? key entries <;> rfl

theorem entryDecoder_eq (v : Value) (key : String) (shape : Shape) :
    p.entryDecoder v key shape = (v.entry key >>= fun w => p.decodeShape w shape) := by
  cases v with
  | dict entries => exact p.decodeEntry_eq_bind entries key shape
  | wrapped type base =>
    cases base with
    | dict entries => exact p.decodeEntry_eq_bind entries key shape
    | _ => rfl
  | _ => rfl

theorem decodeKeys_eq (entries : List (Value × Value)) (item : Item) :
    p.decodeKeys entries item = p.decodeItems (entries.map (·.1)) item := by
  induction entries with
  | nil => rfl
  | cons entry rest ih => simp only [decodeKeys, List.map_cons, decodeItems, ih]

theorem decodeCharacters_eq (cs : List Char) (item : Item) :
    p.decodeCharacters item cs =
      p.decodeItems (cs.map fun c => .text (String.singleton c)) item := by
  induction cs with
  | nil => rfl
  | cons c rest ih => simp only [decodeCharacters, List.map_cons, decodeItems, ih]; rfl

theorem decodeAll_eq (v : Value) (item : Item) :
    p.decodeAll v item = (v.items >>= fun items => p.decodeItems items item) := by
  cases v with
  | dict entries => exact p.decodeKeys_eq entries item
  | text s => exact p.decodeCharacters_eq s.toList item
  | wrapped type base =>
    cases base with
    | dict entries => exact p.decodeKeys_eq entries item
    | text s => exact p.decodeCharacters_eq s.toList item
    | _ => rfl
  | _ => rfl

end Protocol

end DevTools
