import DevTools.Proofs.Codec.Renewal

namespace DevTools

def Value.spellsNetwork : Value → Bool
  | .object type values _ =>
    type == ⟨"network", "ReportingApiReport"⟩ ||
      type == ⟨"network", "LoadNetworkResourcePageResult"⟩ &&
        (values.lookup "headers").any (!·.isNull)
  | _ => false

section SelfNaming

variable {type : TypeName} {name : String} {fields : List Field} {values : List (String × Value)}
  {id : Option Nat}

theorem isSelfNaming_of_spellsNetwork (spells : (Value.object type values id).spellsNetwork = true) :
    isSelfNaming type = true := by
  simp only [Value.spellsNetwork, Bool.or_eq_true, Bool.and_eq_true, beq_iff_eq] at spells
  rcases spells with rfl | ⟨rfl, -⟩
  · rfl
  · rfl

theorem spellsNetwork_eq (declared : protocol.declaration? type = some (.record name fields))
    (names : values.map (·.1) = fields.map (·.name)) {pair : Field × (String × Value)}
    (member : pair ∈ fields.zip values)
    (listed : (type, pair.1.name, pair.1.isOptional) ∈ selfNamingFields) :
    (Value.object type values id).spellsNetwork = !(pair.1.isOptional && pair.2.2.isNull) := by
  have found := lookup_of_mem_zip names (protocol_isRegular _ _ _ declared).names member
  simp only [selfNamingFields, List.mem_cons, Prod.mk.injEq, List.not_mem_nil, or_false] at listed
  rcases listed with ⟨rfl, -, required⟩ | ⟨rfl, named, isOptional⟩
  · simp [Value.spellsNetwork, required]
  · rw [named] at found
    simp [Value.spellsNetwork, found, isOptional]

end SelfNaming

theorem decodeFieldsWith_error {m : Value} {entry : EntryDecoder} {fields : List Field}
    {fault : Fault}
    (each : ∀ field ∈ fields, (∃ v, decodeSlotWith m entry field.toSlot = .ok v) ∨
      decodeSlotWith m entry field.toSlot = .error fault)
    (failing : ∃ field ∈ fields, decodeSlotWith m entry field.toSlot = .error fault) :
    decodeFieldsWith m entry fields = .error fault := by
  induction fields with
  | nil => simp at failing
  | cons field rest ih =>
      rcases each field List.mem_cons_self with ⟨v, read⟩ | failed
      · obtain ⟨other, member, failed⟩ := failing
        have later : other ∈ rest := by
          rcases List.mem_cons.mp member with rfl | later
          · rw [read] at failed
            cases failed
          · exact later
        have tail := ih (fun f inside => each f (List.mem_cons_of_mem _ inside)) ⟨other, later, failed⟩
        simp only [decodeFieldsWith, read, tail]
        rfl
      · simp only [decodeFieldsWith, failed]
        rfl

namespace Protocol

theorem WellTyped.fields {p : Protocol} {type : TypeName} {name : String} {fields : List Field}
    {o : Value} (declared : p.declaration? type = some (.record name fields))
    (typed : p.WellTyped false (.ofType type) o) :
    ∃ values id, o = .object type values id ∧ values.map (·.1) = fields.map (·.name) ∧
      ∀ pair ∈ fields.zip values, p.WellTyped pair.1.isOptional pair.1.shape pair.2.2 := by
  cases typed with
  | wrapper _ wrapper => simp [declared] at wrapper
  | member _ enumeration => simp [declared] at enumeration
  | object _ found names parts =>
      simp only [fields?, declared, Option.some.injEq] at found
      subst found
      exact ⟨_, _, rfl, names, parts⟩

theorem WellTyped.resolved {isOptional : Bool} {shape : Shape} {v : Value}
    (typed : protocol.WellTyped isOptional shape v)
    (writable : protocol.isWritableShape shape = true) (clear : shape.isClear = true) :
    Typed protocol (fun _ => True) (·.selfNamed = false) isOptional shape v := by
  induction typed with
  | missing => exact .missing
  | primitive admitted inside => exact .primitive admitted inside
  | wrapper _ declared admitted inside =>
      exact .wrapper (Reference.selfNamed_of_isClear clear) declared admitted inside
  | member _ declared canonical =>
      exact .member (Reference.selfNamed_of_isClear clear) declared canonical
  | object _ found names _ ih =>
      obtain ⟨name, declared⟩ := fields?_of_isWritable found writable
      refine .object (Reference.selfNamed_of_isClear clear) found names fun pair member => ?_
      have inside := (List.of_mem_zip member).1
      exact ih pair member ((protocol_isRegular _ _ _ declared).writable _ inside)
        (isClear_of_reference clear declared inside)
  | list _ ih => exact .list fun v member => ih v member writable clear

theorem WellTyped.resolved_of_record {type : TypeName} {name : String} {fields : List Field} {o : Value}
    (declared : protocol.declaration? type = some (.record name fields))
    (typed : protocol.WellTyped false (.ofType type) o) (silent : o.spellsNetwork = false) :
    Typed protocol (fun _ => True) (·.selfNamed = false) false (.ofType type) o := by
  obtain ⟨values, id, rfl, names, parts⟩ := typed.fields declared
  have found : protocol.fields? type = some fields := by simp [fields?, declared]
  refine .object rfl found names fun pair member => ?_
  have inside := (List.of_mem_zip member).1
  rcases clear_or_unresolved declared inside with clear | ⟨-, listed⟩
  · exact (parts pair member).resolved ((protocol_isRegular _ _ _ declared).writable _ inside) clear
  · rw [spellsNetwork_eq declared names member listed] at silent
    simp only [Bool.not_eq_false', Bool.and_eq_true] at silent
    rw [silent.1, Value.isNull_iff.mp silent.2]
    exact .missing

theorem decodeSlot_of_spellsNetwork {type : TypeName} {name : String} {fields : List Field}
    {values : List (String × Value)} {id : Option Nat} {entries : List (Value × Value)}
    (declared : protocol.declaration? type = some (.record name fields))
    (names : values.map (·.1) = fields.map (·.name))
    (parts : ∀ pair ∈ fields.zip values,
      protocol.WellTyped pair.1.isOptional pair.1.shape pair.2.2)
    (written : protocol.encodeFields fields values = .ok entries)
    (spells : (Value.object type values id).spellsNetwork = true) {field : Field}
    (inside : field ∈ fields) :
    (field.shape.unresolved? = none ∧ ∃ w,
      decodeSlotWith (.dict entries) (protocol.entryDecoder (.dict entries)) field.toSlot = .ok w) ∨
    decodeSlotWith (.dict entries) (protocol.entryDecoder (.dict entries)) field.toSlot =
      .error (.undefinedName "network") := by
  have record := protocol_isRegular _ _ _ declared
  obtain ⟨held, member⟩ := exists_mem_zip (length_of_names names) inside
  have slot := encodeSlot_of_mem_zip record names written member
  rcases clear_or_unresolved declared inside with clear | ⟨⟨unresolved, -⟩, listed⟩
  · have writable := record.writable _ inside
    have resolved := (parts _ member).resolved writable clear
    obtain ⟨w, read, -⟩ := resolved.renewal_slot slot fun filled j shape =>
      resolved.renewal protocol_isRegular writable filled shape
    exact .inl ⟨Shape.unresolved?_of_isClear clear, w, read⟩
  · rw [spellsNetwork_eq declared names member listed, Bool.not_eq_true'] at spells
    rw [encodeSlot_of_filled spells] at slot
    obtain ⟨j, -, found⟩ := map_ok.mp slot
    exact .inr (decodeSlot_of_unresolved (fun _ => by rw [← found]; rfl) unresolved)

theorem WellTyped.decode_error {type : TypeName} {name : String} {fields : List Field} {o j : Value}
    (declared : protocol.declaration? type = some (.record name fields))
    (typed : protocol.WellTyped false (.ofType type) o) (written : protocol.encode o = .ok j)
    (spells : o.spellsNetwork = true) :
    protocol.decode type j = .error (.undefinedName "network") := by
  obtain ⟨values, id, rfl, names, parts⟩ := typed.fields declared
  rw [encode_object declared] at written
  obtain ⟨entries, all, rfl⟩ := map_ok.mp written
  have failed : decodeFieldsWith (.dict entries) (protocol.entryDecoder (.dict entries)) fields =
      .error (.undefinedName "network") := by
    refine decodeFieldsWith_error (fun field inside => ?_) ?_
    · rcases decodeSlot_of_spellsNetwork declared names parts all spells inside with ⟨-, read⟩ | failed
      · exact .inl read
      · exact .inr failed
    · obtain ⟨field, inside, unresolved⟩ :=
        exists_unresolved declared (isSelfNaming_of_spellsNetwork spells)
      refine ⟨field, inside, ?_⟩
      rcases decodeSlot_of_spellsNetwork declared names parts all spells inside with
        ⟨resolved, -⟩ | failed
      · rw [resolved] at unresolved
        cases unresolved
      · exact failed
  have found : protocol.fields? type = some fields := by simp only [fields?, declared]
  rw [decode, decodeItem_object rfl found, failed]
  rfl

end Protocol

/-- A well-typed record reads back as it was written, unless a field spells its own domain. -/
theorem decode_encode {type : TypeName} {name : String} {fields : List Field} {o : Value}
    (declared : protocol.declaration? type = some (.record name fields))
    (typed : protocol.WellTyped false (.ofType type) o) :
    ∃ j, protocol.encode o = .ok j ∧
      (o.spellsNetwork = false →
        ∃ again, protocol.decode type j = .ok again ∧ again.unmarked = o.unmarked) ∧
      (o.spellsNetwork = true →
        ∃ fault, protocol.decode type j = .error fault ∧ fault.kind = .name ∧
          fault.message = "name 'network' is not defined") := by
  have writable : protocol.isWritableShape (.ofType type) = true := by
    simp [Protocol.isWritableShape, Shape.ofType, Shape.item, Protocol.isWritable, declared]
  obtain ⟨j, written⟩ := typed.encode_ok protocol_isRegular writable rfl
  refine ⟨j, written, ?_, ?_⟩
  · intro silent
    have resolved := typed.resolved_of_record declared silent
    obtain ⟨again, read, renewal⟩ := resolved.renewal protocol_isRegular writable rfl written
    exact ⟨again, read, renewal.unmarked_eq⟩
  · intro spells
    exact ⟨_, typed.decode_error declared written spells, rfl, rfl⟩

def loadResult (headers : Value) : Value :=
  .object ⟨"network", "LoadNetworkResourcePageResult"⟩
    [ ("success", .bool true), ("net_error", .null), ("net_error_name", .null),
      ("http_status_code", .float (.nan none)),
      ("stream", .wrapped ⟨"io", "StreamHandle"⟩ (.text "7")), ("headers", headers) ] none

theorem wellTyped_loadResult (headers : Value)
    (typed : protocol.WellTyped true (.one (.selfNamed "network" "Headers")) headers) :
    protocol.WellTyped false (.ofType ⟨"network", "LoadNetworkResourcePageResult"⟩)
      (loadResult headers) := by
  refine .object trivial rfl rfl ?_
  simp only [List.zip_cons_cons, List.zip_nil_right, List.forall_mem_cons]
  exact ⟨.primitive rfl trivial, .missing, .missing, .primitive rfl trivial,
    .wrapper trivial rfl rfl trivial, typed, by simp⟩

theorem decode_encode_loadResult :
    (∃ j, protocol.encode (loadResult .null) = .ok j ∧
      ∃ again, protocol.decode ⟨"network", "LoadNetworkResourcePageResult"⟩ j = .ok again ∧
        again.unmarked = (loadResult .null).unmarked) ∧
    (∃ j, protocol.encode (loadResult (.wrapped ⟨"network", "Headers"⟩ (.dict []))) = .ok j ∧
      ∃ fault, protocol.decode ⟨"network", "LoadNetworkResourcePageResult"⟩ j = .error fault ∧
        fault.kind = .name ∧ fault.message = "name 'network' is not defined") := by
  constructor
  · obtain ⟨j, written, back, -⟩ := decode_encode rfl (wellTyped_loadResult .null .missing)
    exact ⟨j, written, back rfl⟩
  · obtain ⟨j, written, -, failing⟩ := decode_encode rfl
      (wellTyped_loadResult (.wrapped ⟨"network", "Headers"⟩ (.dict []))
        (.wrapper trivial rfl rfl trivial))
    exact ⟨j, written, failing rfl⟩

end DevTools
