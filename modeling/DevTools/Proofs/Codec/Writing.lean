import DevTools.Codec.Encode
import DevTools.Proofs.Codec.Reading
import DevTools.Proofs.Value.Unmarked

namespace DevTools

theorem lookup_of_mem_zip {fields : List Field} {values : List (String × Value)}
    (names : values.map (·.1) = fields.map (·.name)) (distinct : (fields.map (·.name)).Nodup)
    {pair : Field × (String × Value)} (member : pair ∈ fields.zip values) :
    values.lookup pair.1.name = some pair.2.2 := by
  induction fields generalizing values with
  | nil => simp at member
  | cons field rest ih =>
      cases values with
      | nil => simp at member
      | cons held others =>
          obtain ⟨name, v⟩ := held
          simp only [List.map_cons, List.cons.injEq] at names
          obtain ⟨fresh, distinct⟩ := List.nodup_cons.mp distinct
          rw [List.lookup_cons, names.1]
          rcases List.mem_cons.mp member with rfl | inside
          · simp
          · have differs : pair.1.name ≠ field.name := fun same =>
              fresh (List.mem_map.mpr ⟨pair.1, (List.of_mem_zip inside).1, same⟩)
            rw [beq_false_of_ne differs]
            exact ih names.2 distinct inside

namespace Protocol

variable {p : Protocol}

variable (p) in
def encodeShape : Shape → Value → Except Fault Value
  | .one (.primitive _), v => .ok v
  | .one (.reference _), v => p.encode v
  | .many (.primitive _), v => .list <$> v.items
  | .many (.reference _), v => .list <$> p.encodeAll v

variable (p) in
def encodeSlot (slot : Slot) (v : Value) : Except Fault (Option Value) :=
  if slot.isOptional && v.isNull then .ok none else some <$> p.encodeShape slot.shape v

theorem encodeSlot_some {slot : Slot} {v j : Value} (written : p.encodeSlot slot v = .ok (some j)) :
    (slot.isOptional && v.isNull) = false ∧ p.encodeShape slot.shape v = .ok j := by
  unfold encodeSlot at written
  split at written
  · cases written
  · rename_i filled
    obtain ⟨j', shape, equal⟩ := map_ok.mp written
    cases equal
    exact ⟨Bool.eq_false_iff.mpr filled, shape⟩

theorem encodeField_cons (held : String × Value) (rest : List (String × Value)) (field : Field) :
    p.encodeField (held :: rest) field =
      if held.1 == field.name then p.encodeSlot field.toSlot held.2 else p.encodeField rest field := by
  simp only [encodeField, encodeSlot]
  split
  · split
    · rfl
    · unfold encodeShape
      split <;> simp_all [Functor.map, Except.map] <;> split <;> rfl
  · rfl

theorem encodeField_eq (values : List (String × Value)) (field : Field) :
    p.encodeField values field =
      match values.lookup field.name with
      | some v => p.encodeSlot field.toSlot v
      | none => .ok none := by
  induction values with
  | nil => rfl
  | cons held rest ih =>
      obtain ⟨name, v⟩ := held
      rw [encodeField_cons, ih, List.lookup_cons, BEq.comm]
      cases field.name == name <;> rfl

theorem encode_object {type : TypeName} {name : String} {fields : List Field}
    (declared : p.declaration? type = some (.record name fields)) (values : List (String × Value))
    (id : Option Nat) :
    p.encode (.object type values id) = .dict <$> p.encodeFields fields values := by
  simp only [encode, declared, encodeFields]

end Protocol

theorem encodeFieldsWith_cons {write : Field → Except Fault (Option Value)} {field : Field}
    {rest : List Field} {entries : List (Value × Value)} :
    encodeFieldsWith write (field :: rest) = .ok entries ↔
      ∃ value? others, write field = .ok value? ∧ encodeFieldsWith write rest = .ok others ∧
        entries = value?.toList.map (.text field.key, ·) ++ others := by
  simp only [encodeFieldsWith, bind_ok]
  constructor
  · rintro ⟨value?, written, others, tail, made⟩
    refine ⟨value?, others, written, tail, ?_⟩
    cases value? <;> exact (pure_ok.mp made).symm
  · rintro ⟨value?, others, written, tail, rfl⟩
    refine ⟨value?, written, others, tail, ?_⟩
    cases value? <;> simp [pure_ok]

theorem encodeFieldsWith_ok {write : Field → Except Fault (Option Value)} {fields : List Field}
    (written : ∀ field ∈ fields, ∃ value?, write field = .ok value?) :
    ∃ entries, encodeFieldsWith write fields = .ok entries := by
  induction fields with
  | nil => exact ⟨[], rfl⟩
  | cons field rest ih =>
      obtain ⟨value?, head⟩ := written field List.mem_cons_self
      obtain ⟨others, tail⟩ := ih fun f member => written f (List.mem_cons_of_mem _ member)
      exact ⟨_, encodeFieldsWith_cons.mpr ⟨value?, others, head, tail, rfl⟩⟩

theorem mem_encodeFieldsWith {write : Field → Except Fault (Option Value)}
    {fields : List Field} {entries : List (Value × Value)}
    (h : encodeFieldsWith write fields = .ok entries) :
    ∀ entry ∈ entries, ∃ field ∈ fields, entry.1 = .text field.key ∧
      write field = .ok (some entry.2) := by
  induction fields generalizing entries with
  | nil =>
      cases h
      simp
  | cons field rest ih =>
      obtain ⟨value?, others, head, tail, rfl⟩ := encodeFieldsWith_cons.mp h
      intro entry member
      rcases List.mem_append.mp member with new | old
      · obtain ⟨v, here, rfl⟩ := List.mem_map.mp new
        rw [Option.mem_toList] at here
        exact ⟨field, List.mem_cons_self, rfl, by rw [head, here]⟩
      · obtain ⟨f, inside, equal, written⟩ := ih tail entry old
        exact ⟨f, List.mem_cons_of_mem _ inside, equal, written⟩

namespace Value

theorem lookup?_append (key : String) (first second : List (Value × Value)) :
    lookup? key (first ++ second) = (lookup? key first).or (lookup? key second) := by
  simp only [lookup?, List.find?_append]
  cases first.find? fun entry => entry.1.isText key <;> rfl

theorem lookup?_eq_none {key : String} {entries : List (Value × Value)} :
    lookup? key entries = none ↔ ∀ entry ∈ entries, entry.1.isText key = false := by
  simp [lookup?]

end Value

theorem lookup?_encodeFieldsWith {write : Field → Except Fault (Option Value)} {fields : List Field}
    {entries : List (Value × Value)} (distinct : (fields.map (·.key)).Nodup)
    (h : encodeFieldsWith write fields = .ok entries) :
    ∀ field ∈ fields, write field = .ok (Value.lookup? field.key entries) := by
  induction fields generalizing entries with
  | nil => simp
  | cons field rest ih =>
      obtain ⟨value?, others, head, tail, rfl⟩ := encodeFieldsWith_cons.mp h
      obtain ⟨fresh, distinct⟩ := List.nodup_cons.mp distinct
      have absent : Value.lookup? field.key others = none := by
        refine Value.lookup?_eq_none.mpr fun entry member => ?_
        obtain ⟨f, inside, equal, -⟩ := mem_encodeFieldsWith tail entry member
        rw [equal]
        simp only [Value.isText, Value.core, beq_eq_false_iff_ne]
        exact fun same => fresh (List.mem_map.mpr ⟨f, inside, same⟩)
      intro f member
      rw [Value.lookup?_append]
      rcases List.mem_cons.mp member with rfl | inside
      · rw [head, absent]
        cases value? <;> simp [Value.lookup?, Value.isText, Value.core]
      · have differs : field.key ≠ f.key := fun same =>
          fresh (List.mem_map.mpr ⟨f, inside, same.symm⟩)
        rw [ih distinct tail f inside]
        cases value? <;> simp [Value.lookup?, Value.isText, Value.core, differs]

/-! ## Identities -/

namespace Value

theorem items_unmarked (v : Value) :
    v.unmarked.items = (fun items => items.map unmarked) <$> v.items := by
  cases v with
  | wrapped type base =>
      cases base <;> simp [unmarked, items, core, Functor.map, Except.map, unmarkedItems_eq,
        unmarkedEntries_eq, characters, kindName]
  | _ => simp [unmarked, items, core, Functor.map, Except.map, unmarkedItems_eq,
      unmarkedEntries_eq, characters, kindName]

end Value

namespace Protocol

variable {p : Protocol}

theorem encodeItems_unmarked {items : List Value}
    (part : ∀ x ∈ items, p.encode x.unmarked = Value.unmarked <$> p.encode x) :
    p.encodeItems (items.map Value.unmarked) =
      (fun values => values.map Value.unmarked) <$> p.encodeItems items := by
  induction items with
  | nil => rfl
  | cons x rest ih =>
      have head := part x List.mem_cons_self
      have tail := ih fun y member => part y (List.mem_cons_of_mem _ member)
      simp only [List.map_cons, encodeItems, head, tail]
      cases p.encode x <;> cases p.encodeItems rest <;> rfl

theorem encodeAll_unmarked {v : Value}
    (part : ∀ x ∈ v.core.parts, p.encode x.unmarked = Value.unmarked <$> p.encode x) :
    p.encodeAll v.unmarked = (fun values => values.map Value.unmarked) <$> p.encodeAll v := by
  rw [encodeAll_eq, encodeAll_eq, Value.items_unmarked]
  cases hitems : v.items with
  | error fault => rfl
  | ok items =>
      refine encodeItems_unmarked fun x member => ?_
      rcases Value.mem_items hitems member with ⟨s, rfl⟩ | inside
      · rfl
      · exact part x inside

theorem encodeSlot_unmarked {slot : Slot} {v : Value}
    (whole : p.encode v.unmarked = Value.unmarked <$> p.encode v)
    (part : ∀ x ∈ v.core.parts, p.encode x.unmarked = Value.unmarked <$> p.encode x) :
    p.encodeSlot slot v.unmarked = Option.map Value.unmarked <$> p.encodeSlot slot v := by
  have shape : p.encodeShape slot.shape v.unmarked = Value.unmarked <$> p.encodeShape slot.shape v := by
    cases slot.shape with
    | one item =>
        cases item with
        | primitive kind => rfl
        | reference ref => exact whole
    | many item =>
        cases item with
        | primitive kind =>
            simp only [encodeShape, Value.items_unmarked]
            cases v.items <;> simp [Functor.map, Except.map, Value.unmarked, Value.unmarkedItems_eq]
        | reference ref =>
            simp only [encodeShape, encodeAll_unmarked part]
            cases p.encodeAll v <;> simp [Functor.map, Except.map, Value.unmarked,
              Value.unmarkedItems_eq]
  simp only [encodeSlot, Value.isNull_unmarked, shape]
  split
  · rfl
  · cases p.encodeShape slot.shape v <;> rfl

theorem encodeField_unmarked {values : List (String × Value)} {field : Field}
    (slot : ∀ held ∈ values, p.encodeSlot field.toSlot held.2.unmarked =
      Option.map Value.unmarked <$> p.encodeSlot field.toSlot held.2) :
    p.encodeField (Value.unmarkedFields values) field =
      Option.map Value.unmarked <$> p.encodeField values field := by
  induction values with
  | nil => rfl
  | cons held rest ih =>
      have head := slot held List.mem_cons_self
      have tail := ih fun h member => slot h (List.mem_cons_of_mem _ member)
      simp only [Value.unmarkedFields, encodeField_cons, head, tail]
      split <;> rfl

end Protocol

theorem encodeFieldsWith_unmarked {write write' : Field → Except Fault (Option Value)}
    (same : ∀ field, write' field = Option.map Value.unmarked <$> write field) (fields : List Field) :
    encodeFieldsWith write' fields = Value.unmarkedEntries <$> encodeFieldsWith write fields := by
  induction fields with
  | nil => rfl
  | cons field rest ih =>
      simp only [encodeFieldsWith, same, ih]
      cases write field with
      | error fault => rfl
      | ok value? => cases value? <;> cases encodeFieldsWith write rest <;> rfl

namespace Protocol

variable {p : Protocol}

theorem encode_unmarked (v : Value) : p.encode v.unmarked = Value.unmarked <$> p.encode v := by
  induction v using Value.sizeInduction with
  | step v ih =>
      cases v with
      | wrapped type base => rfl
      | member type name wire => rfl
      | object type values id =>
          have slots : ∀ field : Field, ∀ held ∈ values, p.encodeSlot field.toSlot held.2.unmarked =
              Option.map Value.unmarked <$> p.encodeSlot field.toSlot held.2 := by
            intro field held member
            have below : sizeOf held.2 < sizeOf (Value.object type values id) :=
              Value.sizeOf_lt_of_mem_parts (List.mem_map_of_mem member)
            refine encodeSlot_unmarked (ih held.2 below) fun x inside => ih x ?_
            have := Value.sizeOf_lt_of_mem_parts inside
            have := Value.sizeOf_core_le held.2
            omega
          have fields := encodeFieldsWith_unmarked fun field => encodeField_unmarked (slots field)
          simp only [Value.unmarked, encode]
          split
          · rw [fields]
            cases encodeFieldsWith (p.encodeField values) _ <;> rfl
          · rfl
      | _ => rfl

theorem encode_of_unmarked_eq {v w j : Value} (same : w.unmarked = v.unmarked)
    (written : p.encode v = .ok j) : ∃ j', p.encode w = .ok j' ∧ j'.unmarked = j.unmarked := by
  have looks := encode_unmarked (p := p) w
  rw [same, encode_unmarked, written] at looks
  exact map_ok.mp looks.symm

end Protocol

end DevTools
