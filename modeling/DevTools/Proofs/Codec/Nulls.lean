import DevTools.Proofs.Codec.Rearrangement
import DevTools.Store

namespace DevTools

/-! ## Fields differ -/

theorem event_fields_distinct :
    (protocol.domains.all fun d => d.types.all fun declaration =>
      match declaration with
      | .event _ => false
      | _ => true) = true ∧
    (protocol.events.all fun entry => decide (entry.2.fields.map (·.name)).Nodup &&
      decide (entry.2.fields.map (·.key)).Nodup) = true := by
  decide +kernel

theorem mem_events_of_declaration? {type : TypeName} {event : Event}
    (declared : protocol.declaration? type = some (.event event)) :
    (type.domain, event) ∈ protocol.events := by
  obtain ⟨d, hd, found⟩ := Option.bind_eq_some_iff.mp declared
  have inside := List.mem_of_find?_eq_some hd
  have within : d.scope = type.domain :=
    eq_of_beq (List.find?_some (p := fun d : Domain => d.scope == type.domain) hd)
  refine Protocol.mem_events.mpr ⟨d, inside, within, ?_⟩
  unfold Domain.declaration? at found
  cases located : d.types.find? fun declaration => declaration.name == type.name with
  | some declaration =>
      rw [located] at found
      cases found
      have none := List.all_eq_true.mp (List.all_eq_true.mp event_fields_distinct.1 d inside) _
        (List.mem_of_find?_eq_some located)
      cases none
  | none =>
      rw [located] at found
      obtain ⟨e, listed, equal⟩ := Option.map_eq_some_iff.mp found
      cases equal
      exact List.mem_of_find?_eq_some listed

theorem fields?_distinct {type : TypeName} {fields : List Field}
    (found : protocol.fields? type = some fields) :
    (fields.map (·.name)).Nodup ∧ (fields.map (·.key)).Nodup := by
  unfold Protocol.fields? at found
  split at found
  · rename_i declared
    cases found
    have regular := protocol_isRegular _ _ _ declared
    exact ⟨regular.names, regular.keys⟩
  · rename_i event declared
    cases found
    have distinct := List.all_eq_true.mp event_fields_distinct.2 _ (mem_events_of_declaration? declared)
    simpa only [Bool.and_eq_true, decide_eq_true_eq] using distinct
  · cases found

/-! ## Reading null -/

namespace Protocol

variable (p : Protocol)

def nullAsRecord (type : TypeName) : (fields : List Field) → Except Fault Value
  | [] => .ok (.object type [] none)
  | field :: _ =>
    if field.isOptional then .error (.notSearchable "NoneType")
    else
      match field.shape.unresolved? with
      | some scope => .error (.undefinedName scope)
      | none => .error (.notSubscriptable "NoneType")

def nullAs : Shape → Except Fault Value
  | .one (.primitive .any) => .ok .null
  | .one (.primitive .text) => .ok (.text "None")
  | .one (.primitive .boolean) => .ok (.bool false)
  | .one (.primitive .integer) => .error (.notInteger "NoneType")
  | .one (.primitive .number) => .error (.notNumber "NoneType")
  | .one (.primitive .dict) => .error (.notIterable "NoneType")
  | .one (.reference ref) =>
    if ref.selfNamed then .error (.undefinedName ref.target.domain)
    else
      match p.declaration? ref.target with
      | some (.wrapper _ .text) => .ok (.wrapped ref.target (.text "None"))
      | some (.wrapper _ .integer) => .error (.notInteger "NoneType")
      | some (.wrapper _ .number) => .error (.notNumber "NoneType")
      | some (.wrapper _ _) => .error (.notIterable "NoneType")
      | some (.enumeration _ _) => .error (.notMember .null ref.target.name)
      | some (.record _ fields) => nullAsRecord ref.target fields
      | some (.event event) => nullAsRecord ref.target event.fields
      | none => .error (.undefinedName ref.target.name)
  | .many _ => .error (.notIterable "NoneType")

variable {p}

theorem decodeFields_null (type : TypeName) (fields : List Field) :
    (.object type · none) <$> decodeFieldsWith .null (p.entryDecoder .null) fields =
      nullAsRecord type fields := by
  cases fields with
  | nil => rfl
  | cons field rest =>
      simp only [decodeFieldsWith, decodeSlotWith, nullAsRecord]
      cases field.isOptional with
      | true => rfl
      | false =>
          simp only [Bool.false_eq_true, ↓reduceIte, decodePresentWith]
          cases field.shape.unresolved? <;> rfl

theorem decodeMember_null (type : TypeName) (members : List (String × String)) :
    decodeMember type members .null = .error (.notMember .null type.name) := by
  have none : members.find? (fun m => Value.null.isText m.2) = none :=
    List.find?_eq_none.mpr fun m _ => by simp [Value.isText, Value.core]
  simp only [decodeMember, none]
  rfl

theorem decodeReference_null {ref : Reference} (resolved : ref.selfNamed = false) :
    p.decodeItem .null (.reference ref) = p.nullAs (.one (.reference ref)) := by
  simp only [nullAs, resolved, Bool.false_eq_true, ↓reduceIte]
  cases declared : p.declaration? ref.target with
  | none => simp only [decodeItem_eq, decodeItemWith, resolved, declared, Bool.false_eq_true, ↓reduceIte]
  | some declaration =>
      cases declaration with
      | wrapper name base =>
          rw [decodeItem_wrapper resolved declared]
          cases base <;> rfl
      | enumeration name members =>
          rw [decodeItem_enumeration resolved declared]
          exact decodeMember_null ref.target members
      | record name fields =>
          have found : p.fields? ref.target = some fields := by simp only [fields?, declared]
          rw [decodeItem_object resolved found]
          exact decodeFields_null ref.target fields
      | event event =>
          have found : p.fields? ref.target = some event.fields := by simp only [fields?, declared]
          rw [decodeItem_object resolved found]
          exact decodeFields_null ref.target event.fields

theorem decodeFound_null (slot : Slot) : p.decodeFound slot (some .null) = p.nullAs slot.shape := by
  unfold decodeFound
  cases slot.shape with
  | many item => rfl
  | one item =>
      cases item with
      | primitive kind => cases kind <;> rfl
      | reference ref =>
          cases named : ref.selfNamed with
          | true => simp only [Shape.unresolved?, nullAs, named, ↓reduceIte]
          | false =>
              simp only [Shape.unresolved?, named, Bool.false_eq_true, ↓reduceIte]
              exact decodeReference_null named

theorem nullAsRecord_ne_null (type : TypeName) (fields : List Field) :
    nullAsRecord type fields ≠ .ok .null := by
  intro kept
  unfold nullAsRecord at kept
  split at kept
  · cases kept
  · split at kept
    · cases kept
    · split at kept <;> cases kept

theorem nullAs_eq_null {shape : Shape} : p.nullAs shape = .ok .null ↔ shape = .one .any := by
  constructor
  · intro kept
    cases shape with
    | many item => cases kept
    | one item =>
        cases item with
        | primitive kind =>
            cases kind with
            | any => rfl
            | _ => cases kept
        | reference ref =>
            simp only [nullAs] at kept
            split at kept
            · cases kept
            · cases declared : p.declaration? ref.target with
              | none =>
                  rw [declared] at kept
                  cases kept
              | some declaration =>
                  rw [declared] at kept
                  cases declaration with
                  | wrapper name base => cases base <;> cases kept
                  | enumeration name members => cases kept
                  | record name fields => exact absurd kept (nullAsRecord_ne_null _ fields)
                  | event event => exact absurd kept (nullAsRecord_ne_null _ event.fields)
  · rintro rfl
    rfl

/-! ## One field is read anew -/

theorem decodeFieldsWith_congr {m m' : Value} {entry entry' : EntryDecoder} {fields : List Field}
    (same : ∀ field ∈ fields, decodeSlotWith m entry field.toSlot = decodeSlotWith m' entry' field.toSlot) :
    decodeFieldsWith m entry fields = decodeFieldsWith m' entry' fields := by
  rw [decodeFieldsWith_eq, decodeFieldsWith_eq, decodeSlotsWith_congr (List.forall_mem_map.mpr same)]

theorem decodeFieldsWith_renew {m m' : Value} {entry entry' : EntryDecoder} {fields : List Field}
    {values : List (String × Value)} {field : Field} (distinct : (fields.map (·.name)).Nodup)
    (member : field ∈ fields) (read : decodeFieldsWith m entry fields = .ok values)
    (others : ∀ f ∈ fields, f.name ≠ field.name →
      decodeSlotWith m' entry' f.toSlot = decodeSlotWith m entry f.toSlot) :
    decodeFieldsWith m' entry' fields =
      (fun v => setNamed field.name v values) <$> decodeSlotWith m' entry' field.toSlot := by
  induction fields generalizing values with
  | nil => cases member
  | cons head rest ih =>
      obtain ⟨fresh, distinct⟩ := List.nodup_cons.mp distinct
      obtain ⟨here, below⟩ := List.forall_mem_cons.mp others
      obtain ⟨v, slot, tail, readTail, made⟩ : ∃ v, decodeSlotWith m entry head.toSlot = .ok v ∧
          ∃ tail, decodeFieldsWith m entry rest = .ok tail ∧ (head.name, v) :: tail = values := by
        simpa only [decodeFieldsWith, bind_ok, pure_ok] using read
      subst made
      -- Names differ, so exactly one of the head and the tail is read anew.
      rcases List.mem_cons.mp member with rfl | inside
      · have kept : decodeFieldsWith m' entry' rest = .ok tail := by
          rw [← readTail]
          refine decodeFieldsWith_congr fun f listed => below f listed fun same => ?_
          exact fresh (List.mem_map.mpr ⟨f, listed, same⟩)
        simp only [decodeFieldsWith, kept, setNamed, beq_self_eq_true, ↓reduceIte]
        rfl
      · have differ : head.name ≠ field.name := fun same =>
          fresh (List.mem_map.mpr ⟨field, inside, same.symm⟩)
        simp only [decodeFieldsWith, here differ, slot, ih distinct inside readTail below, setNamed,
          beq_false_of_ne differ, Bool.false_eq_true, ↓reduceIte]
        cases decodeSlotWith m' entry' field.toSlot <;> rfl

end Protocol

theorem lookup_setNamed (name : String) (v : Value) (values : List (String × Value)) :
    (setNamed name v values).lookup name = some v := by
  induction values with
  | nil => simp [setNamed]
  | cons entry rest ih =>
      rw [setNamed]
      split
      · rename_i same
        simp [eq_of_beq same]
      · rename_i differ
        rw [List.lookup_cons, ih]
        have other : (name == entry.1) = false := by simpa [BEq.comm] using differ
        rw [other]

theorem setNamed_of_lookup {name : String} {v : Value} {values : List (String × Value)}
    (held : values.lookup name = some v) : setNamed name v values = values := by
  induction values with
  | nil => cases held
  | cons entry rest ih =>
      rw [setNamed]
      split
      · rename_i same
        rw [List.lookup_cons, BEq.comm, same] at held
        cases held
        rfl
      · rename_i differ
        rw [List.lookup_cons, BEq.comm, Bool.eq_false_iff.mpr differ] at held
        rw [ih held]

/-! ## The statement -/

open Protocol

section

variable {type : TypeName} {fields : List Field} {field : Field} {before after : List (Value × Value)}
  {values : List (String × Value)}

theorem lookup_missing (found : protocol.fields? type = some fields) (member : field ∈ fields)
    (optional : field.isOptional = true) (missing : Value.lookup? field.key (before ++ after) = none)
    (read : decodeFieldsWith (.dict (before ++ after)) (protocol.entryDecoder (.dict (before ++ after)))
      fields = .ok values) : values.lookup field.name = some .null := by
  obtain ⟨names, slots⟩ := decodeFieldsWith_ok.mp read
  obtain ⟨pair, paired⟩ := exists_mem_zip (length_of_names names) member
  have slot := slots _ paired
  rw [decodeSlot_of_missing optional missing] at slot
  rw [lookup_of_mem_zip names (fields?_distinct found).1 paired, Except.ok.inj slot]

theorem decodeFields_with_null (found : protocol.fields? type = some fields) (member : field ∈ fields)
    (missing : Value.lookup? field.key (before ++ after) = none)
    (read : decodeFieldsWith (.dict (before ++ after)) (protocol.entryDecoder (.dict (before ++ after)))
      fields = .ok values) {m : Value} (extended : m = .dict (before ++ (.text field.key, .null) :: after)) :
    decodeFieldsWith m (protocol.entryDecoder m) fields =
      (fun v => setNamed field.name v values) <$> protocol.nullAs field.shape := by
  subst extended
  obtain ⟨names, keys⟩ := fields?_distinct found
  rw [decodeFieldsWith_renew names member read]
  · have absent : Value.lookup? field.key before = none := by
      rw [Value.lookup?_append, Option.or_eq_none_iff] at missing
      exact missing.1
    have self : (Value.text field.key).isText field.key = true := beq_self_eq_true field.key
    rw [decodeSlot_dict, Value.lookup?_append, absent, Value.lookup?_cons, self, Option.none_or, if_pos rfl,
      decodeFound_null]
  · intro f listed differ
    have other : (Value.text field.key).isText f.key = false := by
      refine beq_false_of_ne fun same => differ ?_
      rw [List.inj_on_of_nodup_map keys member listed same]
    rw [decodeSlot_dict, decodeSlot_dict, Value.lookup?_append, Value.lookup?_append, Value.lookup?_cons, other]
    rfl

end

/-- A null under the key of an optional field is read by the conversion of the field. It means the same as
no entry exactly if the field takes any value. -/
theorem null_is_converted {type : TypeName} {fields : List Field} {field : Field}
    {before after : List (Value × Value)} {o : Value} (found : protocol.fields? type = some fields)
    (member : field ∈ fields) (optional : field.isOptional = true)
    (missing : Value.lookup? field.key (before ++ after) = none)
    (read : protocol.decode type (.dict (before ++ after)) = .ok o) :
    let again := protocol.decode type (.dict (before ++ (.text field.key, .null) :: after))
    (again = .ok o ↔ field.shape = .one .any) ∧
    (∀ fault, protocol.nullAs field.shape = .error fault → again = .error fault) ∧
    ∃ values, o = .object type values none ∧ values.lookup field.name = some .null ∧
      ∀ v, protocol.nullAs field.shape = .ok v →
        again = .ok (.object type (setNamed field.name v values) none) := by
  have decoded (m : Value) : protocol.decode type m =
      (.object type · none) <$> decodeFieldsWith m (protocol.entryDecoder m) fields :=
    @decodeItem_object protocol ⟨type, false⟩ fields rfl found m
  rw [decoded] at read
  obtain ⟨values, fieldsRead, rfl⟩ := map_ok.mp read
  have held := lookup_missing found member optional missing fieldsRead
  intro again
  have renewed : again = (fun v => .object type (setNamed field.name v values) none) <$>
      protocol.nullAs field.shape := by
    simp only [again, decoded, decodeFields_with_null found member missing fieldsRead rfl]
    cases protocol.nullAs field.shape <;> rfl
  refine ⟨?_, ?_, values, rfl, held, ?_⟩
  · rw [← nullAs_eq_null, renewed, map_ok]
    constructor
    · rintro ⟨v, converted, same⟩
      have kept := lookup_setNamed field.name v values
      rw [Value.object.inj same |>.2.1, held] at kept
      rw [converted, ← Option.some.inj kept]
    · intro kept
      exact ⟨.null, kept, by rw [setNamed_of_lookup held]⟩
  · intro fault refused
    rw [renewed, refused]
    rfl
  · intro v converted
    rw [renewed, converted]
    rfl

-- A target that nothing opened.
def openedByNone : List (Value × Value) :=
  [ (.text "targetId", .text "T"), (.text "type", .text "page"), (.text "title", .text "t"),
    (.text "url", .text "u"), (.text "attached", .bool false), (.text "canAccessOpener", .bool false) ]

def opener : Field :=
  .optional "opener_id" "openerId" (.one (.ref "target" "TargetID"))

theorem null_is_converted_opener :
    (∃ values, protocol.decode ⟨"target", "TargetInfo"⟩ (.dict openedByNone) =
        .ok (.object ⟨"target", "TargetInfo"⟩ values none) ∧
      protocol.decode ⟨"target", "TargetInfo"⟩ (.dict (openedByNone ++ [(.text "openerId", .null)])) =
        .ok (.object ⟨"target", "TargetInfo"⟩
          (setNamed "opener_id" (.wrapped ⟨"target", "TargetID"⟩ (.text "None")) values) none)) ∧
    protocol.decode ⟨"runtime", "RemoteObject"⟩ (.dict [(.text "value", .null), (.text "type", .text "t")]) =
      protocol.decode ⟨"runtime", "RemoteObject"⟩ (.dict [(.text "type", .text "t")]) := by
  obtain ⟨-, -, values, made, -, converted⟩ :=
    @null_is_converted ⟨"target", "TargetInfo"⟩ _ opener openedByNone [] _ rfl
      (List.mem_of_getElem? (i := 6) rfl) rfl rfl rfl
  obtain ⟨kept, -⟩ :=
    @null_is_converted ⟨"runtime", "RemoteObject"⟩ _ (.optional "value" "value" (.one .any)) []
      [(.text "type", .text "t")] _ rfl (List.mem_of_getElem? (i := 3) rfl) rfl rfl rfl
  exact ⟨⟨values, congrArg Except.ok made, converted _ rfl⟩, kept.mpr rfl⟩

-- Null does not mean absent: it makes an opener of its own.
theorem null_is_not_absent :
    ¬ ∀ (type : TypeName) (fields : List Field) (field : Field) (entries : List (Value × Value)) (o : Value),
      protocol.fields? type = some fields → field ∈ fields → field.isOptional = true →
      Value.lookup? field.key entries = none → protocol.decode type (.dict entries) = .ok o →
      protocol.decode type (.dict (entries ++ [(.text field.key, .null)])) = .ok o := by
  intro absent
  have again := absent ⟨"target", "TargetInfo"⟩ _ opener openedByNone _ rfl
    (List.mem_of_getElem? (i := 6) rfl) rfl rfl rfl
  cases again

end DevTools
