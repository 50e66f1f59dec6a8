import DevTools.Proofs.Catalogue
import DevTools.Proofs.Codec.Typing
import DevTools.Proofs.Codec.Writing

namespace DevTools

def Value.remade : Value → Value
  | .float x => .float x.unmarked
  | v => v

theorem Value.unmarked_remade (v : Value) : v.remade.unmarked = v.unmarked := by
  cases v with
  | float x => cases x <;> rfl
  | _ => rfl

theorem Primitive.convert_of_admits {kind : Primitive} {v : Value} (admitted : kind.admits v = true) :
    kind.convert v = .ok v := by
  cases kind with
  | any => rfl
  | _ => cases v <;> first | rfl | cases admitted

theorem Base.convert_of_admits {base : Base} {v : Value} (type : TypeName)
    (admitted : base.admits v = true) : base.convert (.wrapped type v) = .ok v.remade := by
  cases base with
  | number =>
      cases v with
      | float x => cases x <;> rfl
      | _ => cases admitted
  | _ => cases v <;> first | rfl | cases admitted

theorem decodeMember_text {type : TypeName} {members : List (String × String)}
    {member wire : String} (canonical : canonicalMember? members wire = some (member, wire)) :
    decodeMember type members (.text wire) = .ok (.member type member wire) := by
  have found : (members.find? fun m => (Value.text wire).isText m.2) = some (member, wire) := canonical
  simp only [decodeMember, found]

namespace Protocol

variable {p : Protocol} {content : Value → Prop} {usable : Reference → Prop}

/-! ## Typed instances can be written -/

theorem encodeShape_cons {item : Item} {v j : Value} {rest js : List Value}
    (head : p.encodeShape (.one item) v = .ok j)
    (tail : p.encodeShape (.many item) (.list rest) = .ok (.list js)) :
    p.encodeShape (.many item) (.list (v :: rest)) = .ok (.list (j :: js)) := by
  cases item with
  | primitive kind =>
      cases head
      cases tail
      rfl
  | reference ref =>
      obtain ⟨values, written, equal⟩ := map_ok.mp tail
      cases equal
      simp only [encodeShape] at head
      simp only [encodeShape, encodeAll, encodeItems] at written ⊢
      rw [head, written]
      rfl

theorem encodeShape_list_ok {item : Item} {values : List Value}
    (part : ∀ v ∈ values, ∃ j, p.encodeShape (.one item) v = .ok j) :
    ∃ js, p.encodeShape (.many item) (.list values) = .ok (.list js) := by
  induction values with
  | nil => exact ⟨[], by cases item <;> rfl⟩
  | cons v rest ih =>
      obtain ⟨j, head⟩ := part v List.mem_cons_self
      obtain ⟨js, tail⟩ := ih fun w member => part w (List.mem_cons_of_mem _ member)
      exact ⟨j :: js, encodeShape_cons head tail⟩

theorem fields?_of_isWritable {type : TypeName} {fields : List Field}
    (found : p.fields? type = some fields) (writable : p.isWritable type = true) :
    ∃ name, p.declaration? type = some (.record name fields) := by
  unfold fields? at found
  unfold isWritable at writable
  cases declared : p.declaration? type with
  | none => simp [declared] at found
  | some declaration =>
      cases declaration with
      | record name fields' =>
          simp only [declared, Option.some.injEq] at found
          exact ⟨name, by rw [found]⟩
      | event event => simp [declared] at writable
      | _ => simp [declared] at found

theorem encodeSlot_of_filled {slot : Slot} {v : Value}
    (filled : (slot.isOptional && v.isNull) = false) :
    p.encodeSlot slot v = some <$> p.encodeShape slot.shape v := by
  simp only [encodeSlot, filled, Bool.false_eq_true, ↓reduceIte]

theorem encodeFields_ok {fields : List Field} {values : List (String × Value)}
    (regular : p.Regular fields) (names : values.map (·.1) = fields.map (·.name))
    (slots : ∀ pair ∈ fields.zip values, ∃ value?, p.encodeSlot pair.1.toSlot pair.2.2 = .ok value?) :
    ∃ entries, p.encodeFields fields values = .ok entries := by
  refine encodeFieldsWith_ok fun field member => ?_
  obtain ⟨held, inside⟩ := exists_mem_zip (length_of_names names) member
  obtain ⟨value?, written⟩ := slots _ inside
  exact ⟨value?, by simp only [encodeField_eq, lookup_of_mem_zip names regular.names inside, written]⟩

theorem Typed.encode_ok (regular : p.IsRegular) {isOptional : Bool} {shape : Shape} {v : Value}
    (typed : Typed p content usable isOptional shape v) (writable : p.isWritableShape shape = true)
    (filled : (isOptional && v.isNull) = false) : ∃ j, p.encodeShape shape v = .ok j := by
  induction typed with
  | missing => cases filled
  | primitive => exact ⟨_, rfl⟩
  | wrapper => exact ⟨_, rfl⟩
  | member => exact ⟨_, rfl⟩
  | @object _ ref fields values id _ found names _ ih =>
      obtain ⟨name, declared⟩ := fields?_of_isWritable found writable
      have record := regular _ _ _ declared
      have slots : ∀ pair ∈ fields.zip values,
          ∃ value?, p.encodeSlot pair.1.toSlot pair.2.2 = .ok value? := by
        intro pair member
        cases empty : pair.1.isOptional && pair.2.2.isNull with
        | true => exact ⟨none, by simp only [encodeSlot, empty, ↓reduceIte]⟩
        | false =>
            obtain ⟨j, written⟩ := ih pair member
              (record.writable _ (List.of_mem_zip member).1) empty
            exact ⟨some j, by rw [encodeSlot_of_filled empty, written]; rfl⟩
      obtain ⟨entries, written⟩ := encodeFields_ok record names slots
      exact ⟨.dict entries, by simp only [encodeShape, encode_object declared, written]; rfl⟩
  | list _ ih =>
      obtain ⟨js, written⟩ := encodeShape_list_ok fun v member => ih v member writable rfl
      exact ⟨.list js, written⟩

/-! ## What was written reads back -/

/-- The second value is the first one, written and read back. `content` holds of the values of plain
kinds and of those inside wrappers. -/
inductive Renewal (p : Protocol) (content : Value → Prop) :
    (isOptional : Bool) → Shape → Value → Value → Prop
  | missing {shape : Shape} : Renewal p content true shape .null .null
  | primitive {isOptional : Bool} {kind : Primitive} {v : Value} : content v →
      Renewal p content isOptional (.one (.primitive kind)) v v
  | wrapper {isOptional : Bool} {ref : Reference} {name : String} {base : Base} {v : Value} :
      p.declaration? ref.target = some (.wrapper name base) → base.admits v = true → content v →
      Renewal p content isOptional (.one (.reference ref)) (.wrapped ref.target v)
        (.wrapped ref.target v.remade)
  | member {isOptional : Bool} {ref : Reference} {member wire : String} :
      Renewal p content isOptional (.one (.reference ref)) (.member ref.target member wire)
        (.member ref.target member wire)
  | object {isOptional : Bool} {ref : Reference} {fields : List Field}
      {values again : List (String × Value)} {id : Option Nat} :
      p.fields? ref.target = some fields →
      values.map (·.1) = fields.map (·.name) → again.map (·.1) = fields.map (·.name) →
      (∀ triple ∈ fields.zip (values.zip again),
        Renewal p content triple.1.isOptional triple.1.shape triple.2.1.2 triple.2.2.2) →
      Renewal p content isOptional (.one (.reference ref)) (.object ref.target values id)
        (.object ref.target again none)
  | list {isOptional : Bool} {item : Item} {values again : List Value} :
      values.length = again.length →
      (∀ pair ∈ values.zip again, Renewal p content false (.one item) pair.1 pair.2) →
      Renewal p content isOptional (.many item) (.list values) (.list again)

theorem encodeShape_list {item : Item} {values : List Value} {j : Value}
    (written : p.encodeShape (.many item) (.list values) = .ok j) :
    ∃ js, j = .list js ∧ values.length = js.length ∧
      ∀ pair ∈ values.zip js, p.encodeShape (.one item) pair.1 = .ok pair.2 := by
  cases item with
  | primitive kind =>
      cases written
      refine ⟨values, rfl, ?_⟩
      exact (loop_ok Except.ok rfl fun _ _ => rfl).mp rfl
  | reference ref =>
      obtain ⟨js, all, rfl⟩ := map_ok.mp written
      exact ⟨js, rfl, (loop_ok p.encodeItems rfl fun _ _ => rfl).mp all⟩

theorem decodeItems_of_each {item : Item} {related : Value → Value → Prop} {values js : List Value}
    (length : values.length = js.length)
    (each : ∀ pair ∈ values.zip js, ∃ w, p.decodeItem pair.2 item = .ok w ∧ related pair.1 w) :
    ∃ ws, p.decodeItems js item = .ok ws ∧ values.length = ws.length ∧
      ∀ pair ∈ values.zip ws, related pair.1 pair.2 := by
  induction values generalizing js with
  | nil =>
      obtain rfl := List.length_eq_zero_iff.mp length.symm
      exact ⟨[], rfl, rfl, by simp⟩
  | cons v rest ih =>
      cases js with
      | nil => cases length
      | cons j js =>
          simp only [List.zip_cons_cons, List.forall_mem_cons] at each
          obtain ⟨w, head, here⟩ := each.1
          obtain ⟨ws, tail, lengths, others⟩ := ih (Nat.succ.inj length) each.2
          refine ⟨w :: ws, ?_, by simp [lengths], by simpa [here] using others⟩
          simp only [decodeItems, head, tail]
          rfl

theorem encodeSlot_of_mem_zip {fields : List Field} {values : List (String × Value)}
    {entries : List (Value × Value)} (record : p.Regular fields)
    (names : values.map (·.1) = fields.map (·.name))
    (written : p.encodeFields fields values = .ok entries) {pair : Field × (String × Value)}
    (member : pair ∈ fields.zip values) :
    p.encodeSlot pair.1.toSlot pair.2.2 = .ok (Value.lookup? pair.1.key entries) := by
  have found := lookup?_encodeFieldsWith record.keys written _ (List.of_mem_zip member).1
  simpa only [encodeField_eq, lookup_of_mem_zip names record.names member] using found

theorem Typed.unresolved?_eq_none {isOptional : Bool} {shape : Shape} {v : Value}
    (typed : Typed p content (·.selfNamed = false) isOptional shape v)
    (filled : (isOptional && v.isNull) = false) : shape.unresolved? = none := by
  cases typed with
  | missing => cases filled
  | primitive => rfl
  | wrapper resolved => simp [Shape.unresolved?, resolved]
  | member resolved => simp [Shape.unresolved?, resolved]
  | object resolved => simp [Shape.unresolved?, resolved]
  | list => rfl

theorem Typed.renewal_slot {slot : Slot} {v : Value} {entries : List (Value × Value)}
    (typed : Typed p content (·.selfNamed = false) slot.isOptional slot.shape v)
    (written : p.encodeSlot slot v = .ok (Value.lookup? slot.key entries))
    (back : (slot.isOptional && v.isNull) = false → ∀ j, p.encodeShape slot.shape v = .ok j →
      ∃ w, p.decodeShape j slot.shape = .ok w ∧
        Renewal p content slot.isOptional slot.shape v w) :
    ∃ w, decodeSlotWith (.dict entries) (p.entryDecoder (.dict entries)) slot = .ok w ∧
      Renewal p content slot.isOptional slot.shape v w := by
  cases absent : slot.isOptional && v.isNull with
  | true =>
      simp only [encodeSlot, absent, ↓reduceIte, Except.ok.injEq] at written
      obtain ⟨isOptional, isNull⟩ := Bool.and_eq_true_iff.mp absent
      refine ⟨.null, decodeSlot_of_missing isOptional written.symm, ?_⟩
      rw [isOptional, Value.isNull_iff.mp isNull]
      exact .missing
  | false =>
      rw [encodeSlot_of_filled absent] at written
      obtain ⟨j, shape, found⟩ := map_ok.mp written
      rw [decodeSlot_of_found found.symm (typed.unresolved?_eq_none absent)]
      exact back absent j shape

theorem Typed.renewal (regular : p.IsRegular) {isOptional : Bool} {shape : Shape} {v j : Value}
    (typed : Typed p content (·.selfNamed = false) isOptional shape v)
    (writable : p.isWritableShape shape = true) (filled : (isOptional && v.isNull) = false)
    (written : p.encodeShape shape v = .ok j) :
    ∃ w, p.decodeShape j shape = .ok w ∧ Renewal p content isOptional shape v w := by
  induction typed generalizing j with
  | missing => cases filled
  | primitive admitted inside =>
      cases written
      refine ⟨_, ?_, .primitive inside⟩
      rw [decodeShape, decodeItem_eq]
      exact Primitive.convert_of_admits admitted
  | @wrapper _ ref name base v resolved declared admitted inside =>
      cases written
      refine ⟨_, ?_, .wrapper declared admitted inside⟩
      rw [decodeShape, decodeItem_wrapper resolved declared, Base.convert_of_admits _ admitted]
      rfl
  | member resolved declared canonical =>
      cases written
      refine ⟨_, ?_, .member⟩
      rw [decodeShape, decodeItem_enumeration resolved declared, decodeMember_text canonical]
  | @object _ ref fields values id resolved found names typed ih =>
      obtain ⟨name, declared⟩ := fields?_of_isWritable found writable
      have record := regular _ _ _ declared
      simp only [encodeShape, encode_object declared] at written
      obtain ⟨entries, all, rfl⟩ := map_ok.mp written
      -- Keys differ, so the slot of a field finds what was written for this field.
      have each : ∀ pair ∈ fields.zip values, ∃ w,
          decodeSlotWith (.dict entries) (p.entryDecoder (.dict entries)) pair.1.toSlot = .ok w ∧
            Renewal p content pair.1.isOptional pair.1.shape pair.2.2 w := by
        intro pair member
        have inside := (List.of_mem_zip member).1
        refine (typed pair member).renewal_slot (encodeSlot_of_mem_zip record names all member) ?_
        intro filled j shape
        exact ih pair member (record.writable _ inside) filled shape
      obtain ⟨again, read⟩ := decodeFieldsWith_exists fun field inside => by
        obtain ⟨held, member⟩ := exists_mem_zip (length_of_names names) inside
        obtain ⟨w, slot, -⟩ := each _ member
        exact ⟨w, slot⟩
      obtain ⟨named, slots⟩ := decodeFieldsWith_ok.mp read
      have renewed : ∀ triple ∈ fields.zip (values.zip again),
          Renewal p content triple.1.isOptional triple.1.shape triple.2.1.2 triple.2.2.2 := by
        intro triple member
        obtain ⟨old, new⟩ := mem_zip_zip member
        obtain ⟨w, slot, renewal⟩ := each _ old
        rw [slots _ new] at slot
        cases slot
        exact renewal
      refine ⟨.object ref.target again none, ?_, .object found names named renewed⟩
      rw [decodeShape, decodeItem_object resolved found, read]
      rfl
  | @list _ item values _ ih =>
      obtain ⟨js, rfl, length, steps⟩ := encodeShape_list written
      obtain ⟨ws, read, lengths, renewed⟩ := decodeItems_of_each length fun pair member =>
        ih pair.1 (List.of_mem_zip member).1 writable rfl (steps pair member)
      refine ⟨.list ws, ?_, .list lengths renewed⟩
      simp only [decodeShape, decodeAll, read]
      rfl

theorem Renewal.unmarked_eq {isOptional : Bool} {shape : Shape} {v w : Value}
    (renewal : Renewal p content isOptional shape v w) : w.unmarked = v.unmarked := by
  induction renewal with
  | missing => rfl
  | primitive => rfl
  | wrapper => simp only [Value.unmarked, Value.unmarked_remade]
  | member => rfl
  | @object _ ref fields values again id _ names named _ ih =>
      have length : fields.length = (values.zip again).length := by
        rw [List.length_zip, ← length_of_names names, ← length_of_names named, Nat.min_self]
      have same : ∀ pair ∈ values.zip again, pair.2.2.unmarked = pair.1.2.unmarked := by
        intro pair member
        obtain ⟨field, inside⟩ := exists_mem_zip_right length member
        exact ih _ inside
      simp only [Value.unmarked, Value.unmarkedFields_congr (named.trans names.symm) same]
  | list length _ ih => simp only [Value.unmarked, Value.unmarkedItems_congr length ih]

end Protocol

end DevTools
