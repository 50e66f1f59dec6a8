import DevTools.Proofs.Codec.Renewal

/-!
# Normal forms

`Conforms` says that a message fits a shape exactly, up to unknown keys. Reading such a message and
writing the result gives its normal form: at every record the unknown keys are gone, the others stand in
the order of the fields, and nothing else has changed but for optional entries that may be anything and
are null, which are left out.
-/

namespace DevTools

/-! ## Messages -/

namespace Value

def isJsonKind : Value → Bool
  | tuple _ => false
  | wrapped _ _ => false
  | member _ _ _ => false
  | object _ _ _ => false
  | dict entries => entries.all fun entry =>
      match entry.1 with
      | text _ => true
      | _ => false
  | _ => true

def isJson (v : Value) : Bool :=
  v.all isJsonKind

theorem wireItems_of_fixed {items : List Value} (fixed : ∀ x ∈ items, x.wire = x) :
    wireItems items = items := by
  induction items with
  | nil => rfl
  | cons x rest ih =>
      rw [wireItems, fixed x List.mem_cons_self, ih fun y member =>
        fixed y (List.mem_cons_of_mem _ member)]

theorem wireEntries_of_fixed {entries : List (Value × Value)}
    (fixed : ∀ w ∈ (dict entries).parts, w.wire = w) : wireEntries entries = entries := by
  induction entries with
  | nil => rfl
  | cons entry rest ih =>
      obtain ⟨k, v⟩ := entry
      obtain ⟨key, value, others⟩ := forall_parts_dict_cons.mp fixed
      rw [wireEntries, key, value, ih others]

theorem wire_of_isJson {v : Value} (json : v.isJson = true) : v.wire = v := by
  induction v using partsInduction with
  | step v ih =>
      obtain ⟨kind, parts⟩ := all_iff.mp json
      have fixed : ∀ w ∈ v.parts, w.wire = w := fun w member => ih w member (parts w member)
      cases v with
      | list items => exact congrArg list (wireItems_of_fixed fixed)
      | dict entries => exact congrArg dict (wireEntries_of_fixed fixed)
      | tuple items => cases kind
      | wrapped type base => cases kind
      | object type fields id => cases kind
      | _ => rfl

end Value

theorem Base.convert_of_conforms {base : Base} {v : Value} (admitted : base.admits v = true) :
    base.convert v = .ok v.remade := by
  cases base with
  | number =>
      cases v with
      | float x => cases x <;> rfl
      | _ => cases admitted
  | _ => cases v <;> first | rfl | cases admitted

theorem exists_canonicalMember {members : List (String × String)} {wire : String}
    (listed : wire ∈ members.map (·.2)) :
    ∃ member, canonicalMember? members wire = some (member, wire) := by
  obtain ⟨m, inside, rfl⟩ := List.mem_map.mp listed
  have some : (canonicalMember? members m.2).isSome = true :=
    List.find?_isSome.mpr ⟨m, inside, beq_self_eq_true _⟩
  obtain ⟨first, found⟩ := Option.isSome_iff_exists.mp some
  have same : m.2 = first.2 :=
    eq_of_beq (List.find?_some (p := fun e : String × String => m.2 == e.2) found)
  exact ⟨first.1, by rw [found, same]⟩

/-! ## Conformance and normal forms -/

/-- An entry that is not written although it is there: it may be missing, may be anything, and is
null. -/
def Field.isVoid (field : Field) (v : Value) : Bool :=
  field.isOptional && field.shape == .one .any && v.isNull

def normalField? (find : String → Shape → Option Value) (field : Field) : Option Value :=
  (find field.key field.shape).filter (!field.isVoid ·)

namespace Protocol

inductive Conforms (p : Protocol) : Shape → Value → Prop
  | primitive {kind : Primitive} {v : Value} : kind.admits v = true →
      Conforms p (.one (.primitive kind)) v
  | wrapper {ref : Reference} {name : String} {base : Base} {v : Value} :
      p.declaration? ref.target = some (.wrapper name base) → base.admits v = true →
      Conforms p (.one (.reference ref)) v
  | member {ref : Reference} {name : String} {members : List (String × String)} {wire : String} :
      p.declaration? ref.target = some (.enumeration name members) → wire ∈ members.map (·.2) →
      Conforms p (.one (.reference ref)) (.text wire)
  | record {ref : Reference} {name : String} {fields : List Field}
      {entries : List (Value × Value)} :
      p.declaration? ref.target = some (.record name fields) →
      (∀ field ∈ fields, field.isOptional = false → (Value.lookup? field.key entries).isSome = true) →
      (∀ field ∈ fields, ∀ v, Value.lookup? field.key entries = some v →
        Conforms p field.shape v) →
      Conforms p (.one (.reference ref)) (.dict entries)
  | list {item : Item} {items : List Value} :
      (∀ v ∈ items, Conforms p (.one item) v) → Conforms p (.many item) (.list items)

variable (p : Protocol)

mutual

def normalForm : Value → Shape → Value
  | .dict entries, .one (.reference ref) =>
    match p.declaration? ref.target with
    | some (.record _ fields) =>
      .dict (fields.filterMap fun field =>
        (normalField? (fun key shape => normalEntry? entries key shape) field).map
          (.text field.key, ·))
    | _ => .dict entries
  | .list items, .many item => .list (normalItems items item)
  | v, _ => v
termination_by structural v => v

def normalItems : List Value → Item → List Value
  | [], _ => []
  | v :: rest, item => normalForm v (.one item) :: normalItems rest item
termination_by structural items => items

def normalEntry? : List (Value × Value) → String → Shape → Option Value
  | [], _, _ => none
  | (k, v) :: rest, key, shape =>
    if k.isText key then some (normalForm v shape) else normalEntry? rest key shape
termination_by structural entries => entries

end

variable {p}

theorem normalEntry?_eq (entries : List (Value × Value)) (key : String) (shape : Shape) :
    p.normalEntry? entries key shape = (Value.lookup? key entries).map (p.normalForm · shape) := by
  induction entries with
  | nil => rfl
  | cons entry rest ih =>
      obtain ⟨k, v⟩ := entry
      unfold normalEntry?
      cases h : k.isText key with
      | true => simp [Value.lookup?, h]
      | false => simp only [Bool.false_eq_true, ↓reduceIte, ih]; simp [Value.lookup?, h]

theorem normalForm_any (v : Value) : p.normalForm v (.one .any) = v := by
  cases v <;> rfl

def Settles (p : Protocol) (shape : Shape) (v : Value) : Prop :=
  ∃ o j, p.decodeShape v shape = .ok o ∧ p.encodeShape shape o = .ok j ∧
    o.isNull = (shape == .one .any && v.isNull) ∧
    j.wire.unmarked = (p.normalForm v shape).unmarked

theorem settles_primitive {kind : Primitive} {v : Value} (json : v.isJson = true)
    (admitted : kind.admits v = true) : p.Settles (.one (.primitive kind)) v := by
  have normal : p.normalForm v (.one (.primitive kind)) = v := by cases v <;> rfl
  refine ⟨v, v, ?_, rfl, ?_, by rw [normal, Value.wire_of_isJson json]⟩
  · rw [decodeShape, decodeItem_eq]
    exact Primitive.convert_of_admits admitted
  · cases kind with
    | any => rfl
    | _ => cases v <;> first | rfl | cases admitted

theorem settles_wrapper {ref : Reference} {name : String} {base : Base} {v : Value}
    (json : v.isJson = true) (resolved : ref.selfNamed = false)
    (declared : p.declaration? ref.target = some (.wrapper name base))
    (admitted : base.admits v = true) : p.Settles (.one (.reference ref)) v := by
  have normal : p.normalForm v (.one (.reference ref)) = v := by
    cases v <;> first | rfl | simp only [normalForm, declared]
  refine ⟨.wrapped ref.target v.remade, .wrapped ref.target v.remade, ?_, rfl, rfl, ?_⟩
  · rw [decodeShape, decodeItem_wrapper resolved declared, Base.convert_of_conforms admitted]
    rfl
  · have fixed : v.remade.wire = v.remade := by
      cases v with
      | float x => rfl
      | _ => exact Value.wire_of_isJson json
    rw [normal, Value.wire, fixed, Value.unmarked_remade]

theorem settles_member {ref : Reference} {name : String} {members : List (String × String)}
    {wire : String} (resolved : ref.selfNamed = false)
    (declared : p.declaration? ref.target = some (.enumeration name members))
    (listed : wire ∈ members.map (·.2)) : p.Settles (.one (.reference ref)) (.text wire) := by
  obtain ⟨member, canonical⟩ := exists_canonicalMember listed
  refine ⟨.member ref.target member wire, .text wire, ?_, rfl, rfl, rfl⟩
  rw [decodeShape, decodeItem_enumeration resolved declared, decodeMember_text canonical]

theorem settles_list {item : Item} {items : List Value}
    (part : ∀ v ∈ items, p.Settles (.one item) v) : p.Settles (.many item) (.list items) := by
  suffices settled : ∃ os js, p.decodeItems items item = .ok os ∧
      p.encodeShape (.many item) (.list os) = .ok (.list js) ∧
      (Value.list js).wire.unmarked = (Value.list (p.normalItems items item)).unmarked by
    obtain ⟨os, js, read, written, same⟩ := settled
    refine ⟨.list os, .list js, ?_, written, rfl, same⟩
    simp only [decodeShape, decodeAll, read]
    rfl
  induction items with
  | nil => exact ⟨[], [], rfl, by cases item <;> rfl, rfl⟩
  | cons v rest ih =>
      obtain ⟨o, j, read, written, -, same⟩ := part v List.mem_cons_self
      obtain ⟨os, js, reads, writes, others⟩ := ih fun w member => part w (List.mem_cons_of_mem _ member)
      refine ⟨o :: os, j :: js, ?_, encodeShape_cons written writes, ?_⟩
      · simp only [decodeShape] at read
        simp only [decodeItems, read, reads]
        rfl
      · simp only [Value.wire, Value.wireItems, Value.unmarked, Value.unmarkedItems, normalItems,
          Value.list.injEq] at others ⊢
        rw [same, others]

end Protocol

theorem encodeFieldsWith_filterMap {write : Field → Except Fault (Option Value)}
    {kept : Field → Option Value} {fields : List Field}
    (each : ∀ field ∈ fields, ∃ value?, write field = .ok value? ∧
      value?.map (·.wire.unmarked) = (kept field).map Value.unmarked) :
    ∃ entries, encodeFieldsWith write fields = .ok entries ∧
      (Value.dict entries).wire.unmarked =
        (Value.dict (fields.filterMap fun field => (kept field).map (.text field.key, ·))).unmarked := by
  induction fields with
  | nil => exact ⟨[], rfl, rfl⟩
  | cons field rest ih =>
      obtain ⟨value?, head, same⟩ := each field List.mem_cons_self
      obtain ⟨entries, tail, others⟩ := ih fun f member => each f (List.mem_cons_of_mem _ member)
      refine ⟨_, encodeFieldsWith_cons.mpr ⟨value?, entries, head, tail, rfl⟩, ?_⟩
      simp only [Value.wire, Value.unmarked, Value.dict.injEq] at others ⊢
      cases value? with
      | none =>
          have dropped : kept field = none := by simpa using same.symm
          simpa [dropped] using others
      | some v =>
          obtain ⟨w, kept', equal⟩ := Option.map_eq_some_iff.mp same.symm
          simp [kept', Value.wireEntries, Value.unmarkedEntries, Value.wire, Value.unmarked, equal, others]

namespace Protocol

variable {p : Protocol}

theorem settles_field {field : Field} {entries : List (Value × Value)}
    (required : field.isOptional = false → (Value.lookup? field.key entries).isSome = true)
    (present : ∀ v, Value.lookup? field.key entries = some v →
      field.shape.unresolved? = none ∧ p.Settles field.shape v) :
    ∃ o value?,
      decodeSlotWith (.dict entries) (p.entryDecoder (.dict entries)) field.toSlot = .ok o ∧
      p.encodeSlot field.toSlot o = .ok value? ∧
      value?.map (·.wire.unmarked) =
        (normalField? (p.normalEntry? entries) field).map Value.unmarked := by
  cases found : Value.lookup? field.key entries with
  | none =>
      have isOptional : field.isOptional = true := by
        cases optional : field.isOptional with
        | true => rfl
        | false => simpa [found] using required optional
      refine ⟨.null, none, decodeSlot_of_missing isOptional found, ?_, ?_⟩
      · simp [encodeSlot, isOptional, Value.isNull]
      · simp [normalField?, normalEntry?_eq, found]
  | some v =>
      obtain ⟨resolved, o, j, read, written, null, same⟩ := present v found
      -- An entry is left out just if it may be and what was read from it is null, and only an
      -- entry that may be anything is ever read as null.
      have void : field.isVoid (p.normalForm v field.shape) = (field.isOptional && o.isNull) := by
        rw [Field.isVoid, null]
        by_cases isAny : field.shape = .one .any
        · rw [isAny, normalForm_any, Bool.and_assoc]
        · simp [beq_false_of_ne isAny]
      have kept : normalField? (p.normalEntry? entries) field =
          if field.isOptional && o.isNull then none else some (p.normalForm v field.shape) := by
        simp only [normalField?, normalEntry?_eq, found, Option.map_some, Option.filter_some, void]
        cases field.isOptional && o.isNull <;> rfl
      refine ⟨o, if field.isOptional && o.isNull then none else some j,
        (decodeSlot_of_found found resolved).trans read, ?_, ?_⟩
      · simp only [encodeSlot, written]
        split <;> rfl
      · rw [kept]
        split
        · rfl
        · simp [same]

theorem settles_record {ref : Reference} {name : String} {fields : List Field}
    {entries : List (Value × Value)} (resolved : ref.selfNamed = false)
    (declared : p.declaration? ref.target = some (.record name fields)) (record : p.Regular fields)
    (required : ∀ field ∈ fields, field.isOptional = false →
      (Value.lookup? field.key entries).isSome = true)
    (present : ∀ field ∈ fields, ∀ v, Value.lookup? field.key entries = some v →
      field.shape.unresolved? = none ∧ p.Settles field.shape v) :
    p.Settles (.one (.reference ref)) (.dict entries) := by
  have each : ∀ field ∈ fields, ∃ o value?,
      decodeSlotWith (.dict entries) (p.entryDecoder (.dict entries)) field.toSlot = .ok o ∧
      p.encodeSlot field.toSlot o = .ok value? ∧
      value?.map (·.wire.unmarked) =
        (normalField? (p.normalEntry? entries) field).map Value.unmarked :=
    fun field inside => settles_field (required field inside) (present field inside)
  obtain ⟨values, read⟩ := decodeFieldsWith_exists fun field inside => by
    obtain ⟨o, -, slot, -⟩ := each field inside
    exact ⟨o, slot⟩
  obtain ⟨names, slots⟩ := decodeFieldsWith_ok.mp read
  have writes : ∀ field ∈ fields, ∃ value?, p.encodeField values field = .ok value? ∧
      value?.map (·.wire.unmarked) =
        (normalField? (p.normalEntry? entries) field).map Value.unmarked := by
    intro field inside
    obtain ⟨held, member⟩ := exists_mem_zip (length_of_names names) inside
    obtain ⟨o, value?, slot, written, same⟩ := each field inside
    rw [slots _ member] at slot
    cases slot
    refine ⟨value?, ?_, same⟩
    rw [encodeField_eq, lookup_of_mem_zip names record.names member]
    exact written
  obtain ⟨out, all, same⟩ := encodeFieldsWith_filterMap writes
  refine ⟨.object ref.target values none, .dict out, ?_, ?_, rfl, ?_⟩
  · have found : p.fields? ref.target = some fields := by simp only [fields?, declared]
    rw [decodeShape, decodeItem_object resolved found, read]
    rfl
  · simp only [encodeShape, encode_object declared, encodeFields, all]
    rfl
  · rw [same]
    simp only [normalForm, declared]

theorem Conforms.settles {shape : Shape} {v : Value} (conforms : Conforms protocol shape v)
    (json : v.isJson = true) (clear : shape.isClear = true) : protocol.Settles shape v := by
  induction conforms with
  | primitive admitted => exact settles_primitive json admitted
  | wrapper declared admitted =>
      exact settles_wrapper json (Reference.selfNamed_of_isClear clear) declared admitted
  | member declared listed =>
      exact settles_member (Reference.selfNamed_of_isClear clear) declared listed
  | @record ref name fields entries declared required _ ih =>
      refine settles_record (Reference.selfNamed_of_isClear clear) declared
        (protocol_isRegular _ _ _ declared) required ?_
      intro field inside v found
      have below := isClear_of_reference clear declared inside
      have part : v.isJson = true := 
        Value.all_entry json (Value.entry_ok.mpr ⟨entries, rfl, found⟩)
      exact ⟨Shape.unresolved?_of_isClear below, ih field inside v found part below⟩
  | list _ ih =>
      refine settles_list fun v inside => ?_
      exact ih v inside ((Value.all_iff.mp json).2 v inside) clear

theorem Conforms.settles_selfNaming {type : TypeName} {v : Value}
    (conforms : Conforms protocol (.ofType type) v) (json : v.isJson = true)
    (selfNaming : isSelfNaming type = true)
    (absent : ∀ name isOptional, (type, name, isOptional) ∈ selfNamingFields →
      v.holds name = .ok false) : protocol.Settles (.ofType type) v := by
  obtain ⟨name, fields, declared⟩ := record_of_isSelfNaming selfNaming
  cases conforms with
  | wrapper wrapper => simp [declared] at wrapper
  | member enumeration => simp [declared] at enumeration
  | @record _ _ _ entries found required parts =>
      rw [declared, Option.some.injEq, Declaration.record.injEq] at found
      obtain ⟨-, rfl⟩ := found
      refine settles_record rfl declared (protocol_isRegular _ _ _ declared) required ?_
      intro field inside v found
      rcases clear_or_unresolved declared inside with clear | ⟨⟨-, key⟩, listed⟩
      · have part : v.isJson = true :=
          Value.all_entry json (Value.entry_ok.mpr ⟨entries, rfl, found⟩)
        exact ⟨Shape.unresolved?_of_isClear clear, (parts field inside v found).settles part clear⟩
      · have missing := absent _ _ listed
        rw [← key, Value.holds_dict, found] at missing
        cases missing

end Protocol

open Protocol

/-- Reading a message that conforms to a type and writing the result gives its normal form. In every
record the required fields come first. -/
theorem encode_decode {type : TypeName} {m : Value} (json : m.isJson = true)
    (conforms : Conforms protocol (.ofType type) m)
    (report : type ≠ ⟨"network", "ReportingApiReport"⟩)
    (result : type = ⟨"network", "LoadNetworkResourcePageResult"⟩ → m.holds "headers" = .ok false) :
    (∃ o j, protocol.decode type m = .ok o ∧ protocol.encode o = .ok j ∧
      j.wire.unmarked = (protocol.normalForm m (.ofType type)).unmarked) ∧
    ∀ record name fields, protocol.declaration? record = some (.record name fields) →
      fields.Pairwise fun a b => a.isOptional = true → b.isOptional = true := by
  refine ⟨?_, fun record name fields declared => (protocol_isRegular _ _ _ declared).ordered⟩
  have settled : protocol.Settles (.ofType type) m := by
    cases selfNaming : isSelfNaming type with
    | false =>
        refine conforms.settles json ?_
        simp [Shape.isClear, Shape.ofType, Shape.item, Reference.isClear, selfNaming]
    | true =>
        refine conforms.settles_selfNaming json selfNaming ?_
        intro name isOptional listed
        simp only [selfNamingFields, List.mem_cons, Prod.mk.injEq, List.not_mem_nil, or_false] at listed
        rcases listed with ⟨equal, -, -⟩ | ⟨equal, named, -⟩
        · exact absurd equal report
        · rw [named]
          exact result equal
  obtain ⟨o, j, read, written, -, same⟩ := settled
  exact ⟨o, j, read, written, same⟩

def looseObject : Value :=
  .dict [ (.text "value", .null),
    (.text "preview", .dict [ (.text "properties", .list []), (.text "overflow", .bool false),
      (.text "depth", .int 1), (.text "type", .text "object") ]),
    (.text "type", .text "object") ]

theorem conforms_looseObject :
    Conforms protocol (.ofType ⟨"runtime", "RemoteObject"⟩) looseObject := by
  refine .record rfl (by decide) ?_
  simp only [List.forall_mem_cons]
  refine ⟨?_, ?_, ?_, ?_, ?_, ?_, ?_, ?_, ?_, by simp⟩ <;> rintro _ ⟨⟩
  · exact .primitive rfl
  · exact .primitive rfl
  · refine .record rfl (by decide) ?_
    simp only [List.forall_mem_cons]
    refine ⟨?_, ?_, ?_, ?_, ?_, ?_, by simp⟩ <;> rintro _ ⟨⟩
    · exact .primitive rfl
    · exact .primitive rfl
    · exact .list (by simp)

theorem encode_decode_looseObject :
    looseObject.isJson = true ∧
    ∃ o j, protocol.decode ⟨"runtime", "RemoteObject"⟩ looseObject = .ok o ∧
      protocol.encode o = .ok j ∧
      j.wire.unmarked = (Value.dict [ (.text "type", .text "object"),
        (.text "preview", .dict [ (.text "type", .text "object"), (.text "overflow", .bool false),
          (.text "properties", .list []) ]) ]).unmarked :=
  ⟨rfl, (encode_decode rfl conforms_looseObject (by decide) (fun h => nomatch h)).1⟩

end DevTools
