import DevTools.Codec.Decode
import DevTools.Proofs.Value.Genuine

namespace DevTools

/-! ## Lists in step -/

section Zip

variable {α β γ : Type} {as : List α} {bs : List β} {cs : List γ}

theorem exists_mem_zip {a : α} (length : as.length = bs.length) (member : a ∈ as) :
    ∃ b, (a, b) ∈ as.zip bs := by
  rw [← List.map_fst_zip (Nat.le_of_eq length)] at member
  obtain ⟨pair, inside, rfl⟩ := List.mem_map.mp member
  exact ⟨pair.2, inside⟩

theorem exists_mem_zip_right {b : β} (length : as.length = bs.length) (member : b ∈ bs) :
    ∃ a, (a, b) ∈ as.zip bs := by
  rw [← List.map_snd_zip (Nat.le_of_eq length.symm)] at member
  obtain ⟨pair, inside, rfl⟩ := List.mem_map.mp member
  exact ⟨pair.1, inside⟩

theorem mem_zip_zip {triple : α × β × γ} (member : triple ∈ as.zip (bs.zip cs)) :
    (triple.1, triple.2.1) ∈ as.zip bs ∧ (triple.1, triple.2.2) ∈ as.zip cs := by
  induction as generalizing bs cs with
  | nil => simp at member
  | cons a rest ih =>
      cases bs with
      | nil => simp at member
      | cons b bs =>
          cases cs with
          | nil => simp at member
          | cons c cs =>
              rcases List.mem_cons.mp member with rfl | inside
              · simp
              · obtain ⟨left, right⟩ := ih inside
                exact ⟨List.mem_cons_of_mem _ left, List.mem_cons_of_mem _ right⟩

end Zip

theorem length_of_names {fields : List Field} {values : List (String × Value)}
    (names : values.map (·.1) = fields.map (·.name)) : fields.length = values.length := by
  simpa using congrArg List.length names.symm

/-! ## Steps that succeed, and steps that fail -/

theorem bind_ok {ε α β : Type} {x : Except ε α} {f : α → Except ε β} {b : β} :
    (x >>= f) = .ok b ↔ ∃ a, x = .ok a ∧ f a = .ok b := by
  cases x with
  | error fault => simp [bind, Except.bind]
  | ok a => simp [bind, Except.bind]

theorem map_ok {ε α β : Type} {x : Except ε α} {f : α → β} {b : β} :
    (f <$> x) = .ok b ↔ ∃ a, x = .ok a ∧ f a = b := by
  cases x with
  | error fault => simp [Functor.map, Except.map]
  | ok a => simp [Functor.map, Except.map]

theorem pure_ok {ε α : Type} {a b : α} : (pure a : Except ε α) = .ok b ↔ a = b := by
  simp [pure, Except.pure]

theorem bind_error {α β : Type} {x : Except Fault α} {f : α → Except Fault β} {fault : Fault} :
    (x >>= f) = .error fault ↔ x = .error fault ∨ ∃ a, x = .ok a ∧ f a = .error fault := by
  cases x with
  | error fault => simp [bind, Except.bind]
  | ok a => simp [bind, Except.bind]

theorem map_error {α β : Type} {x : Except Fault α} {f : α → β} {fault : Fault} :
    (f <$> x) = .error fault ↔ x = .error fault := by
  cases x with
  | error fault => simp [Functor.map, Except.map]
  | ok a => simp [Functor.map, Except.map]

theorem loop_ok {α β : Type} {step : α → Except Fault β} (loop : List α → Except Fault (List β))
    (nil : loop [] = .ok [])
    (cons : ∀ a rest, loop (a :: rest) = do
      let b ← step a
      let bs ← loop rest
      return b :: bs)
    {as : List α} {bs : List β} :
    loop as = .ok bs ↔ as.length = bs.length ∧ ∀ pair ∈ as.zip bs, step pair.1 = .ok pair.2 := by
  induction as generalizing bs with
  | nil => cases bs <;> simp [nil]
  | cons a rest ih =>
      simp only [cons, bind_ok, pure_ok, ih]
      constructor
      · rintro ⟨b, head, others, ⟨length, tail⟩, rfl⟩
        exact ⟨by simp [length], by simpa [head] using tail⟩
      · rintro ⟨length, steps⟩
        cases bs with
        | nil => simp at length
        | cons head others =>
            simp only [List.length_cons, Nat.add_right_cancel_iff] at length
            simp only [List.zip_cons_cons, List.forall_mem_cons] at steps
            exact ⟨head, steps.1, others, ⟨length, steps.2⟩, rfl⟩

theorem decodeFieldsWith_ok {m : Value} {entry : EntryDecoder} {fields : List Field}
    {values : List (String × Value)} :
    decodeFieldsWith m entry fields = .ok values ↔
      values.map (·.1) = fields.map (·.name) ∧
        ∀ pair ∈ fields.zip values, decodeSlotWith m entry pair.1.toSlot = .ok pair.2.2 := by
  induction fields generalizing values with
  | nil => cases values <;> simp [decodeFieldsWith]
  | cons field rest ih =>
      simp only [decodeFieldsWith, bind_ok, pure_ok, ih]
      constructor
      · rintro ⟨v, slot, others, ⟨names, slots⟩, rfl⟩
        exact ⟨by simp [names], by simpa [slot] using slots⟩
      · rintro ⟨names, slots⟩
        cases values with
        | nil => simp at names
        | cons head others =>
            simp only [List.map_cons, List.cons.injEq] at names
            simp only [List.zip_cons_cons, List.forall_mem_cons] at slots
            exact ⟨head.2, slots.1, others, ⟨names.2, slots.2⟩, by rw [← names.1]⟩

theorem decodeFieldsWith_exists {m : Value} {entry : EntryDecoder} {fields : List Field}
    (each : ∀ field ∈ fields, ∃ v, decodeSlotWith m entry field.toSlot = .ok v) :
    ∃ values, decodeFieldsWith m entry fields = .ok values := by
  induction fields with
  | nil => exact ⟨[], rfl⟩
  | cons field rest ih =>
      obtain ⟨v, head⟩ := each field List.mem_cons_self
      obtain ⟨values, tail⟩ := ih fun f member => each f (List.mem_cons_of_mem _ member)
      refine ⟨(field.name, v) :: values, ?_⟩
      simp only [decodeFieldsWith, head, tail]
      rfl

theorem decodeSlotsWith_ok {m : Value} {entry : EntryDecoder} {slots : List Slot}
    {values : List Value} :
    decodeSlotsWith m entry slots = .ok values ↔
      slots.length = values.length ∧
        ∀ pair ∈ slots.zip values, decodeSlotWith m entry pair.1 = .ok pair.2 :=
  loop_ok (decodeSlotsWith m entry) rfl fun _ _ => rfl

namespace Value

def entry? (v : Value) (key : String) : Option Value :=
  (v.entry key).toOption

theorem entry?_eq_some {v w : Value} {key : String} : v.entry? key = some w ↔ v.entry key = .ok w := by
  unfold entry?
  cases v.entry key <;> simp [Except.toOption]

theorem holds_of_entry {v w : Value} {key : String} (found : v.entry key = .ok w) :
    v.holds key = .ok true := by
  obtain ⟨entries, hcore, located⟩ := entry_ok.mp found
  obtain ⟨k, member, same⟩ := mem_of_lookup? located
  simp only [holds, hcore, Except.ok.injEq, List.any_eq_true]
  exact ⟨_, member, same⟩

theorem entry?_eq_none_of_holds {v : Value} {key : String} (missing : v.holds key = .ok false) :
    v.entry? key = none := by
  cases h : v.entry? key with
  | none => rfl
  | some w =>
      have present := holds_of_entry (entry?_eq_some.mp h)
      rw [missing] at present
      cases present

theorem holds_dict (entries : List (Value × Value)) (key : String) :
    (dict entries).holds key = .ok (lookup? key entries).isSome := by
  simp only [holds, core, lookup?, Option.isSome_map, Except.ok.injEq]
  rw [Bool.eq_iff_iff]
  simp

end Value

namespace Protocol

variable {p : Protocol}

theorem decodeItems_ok {items values : List Value} {item : Item} :
    p.decodeItems items item = .ok values ↔
      items.length = values.length ∧
        ∀ pair ∈ items.zip values, p.decodeItem pair.1 item = .ok pair.2 :=
  loop_ok (p.decodeItems · item) rfl fun _ _ => rfl

theorem decodeAll_ok {m : Value} {item : Item} {values : List Value} :
    p.decodeAll m item = .ok values ↔ ∃ items, m.items = .ok items ∧
      items.length = values.length ∧
        ∀ pair ∈ items.zip values, p.decodeItem pair.1 item = .ok pair.2 := by
  simp only [decodeAll_eq, bind_ok, decodeItems_ok]

theorem decodePresent_ok {m v : Value} {slot : Slot} :
    decodePresentWith (p.entryDecoder m) slot = .ok v ↔
      slot.shape.unresolved? = none ∧ ∃ w, m.entry slot.key = .ok w ∧ p.decodeShape w slot.shape = .ok v := by
  unfold decodePresentWith
  cases slot.shape.unresolved? with
  | some scope => simp
  | none => simp only [entryDecoder_eq, bind_ok, true_and]

theorem decodeSlot_ok {m v : Value} {slot : Slot} :
    decodeSlotWith m (p.entryDecoder m) slot = .ok v →
      (slot.isOptional = true ∧ m.holds slot.key = .ok false ∧ v = .null) ∨
      (slot.shape.unresolved? = none ∧
        ∃ w, m.entry slot.key = .ok w ∧ p.decodeShape w slot.shape = .ok v) := by
  intro h
  unfold decodeSlotWith at h
  split at h
  · rename_i isOptional
    obtain ⟨present, found, h⟩ := bind_ok.mp h
    cases present with
    | true => exact .inr (decodePresent_ok.mp h)
    | false => exact .inl ⟨isOptional, found, (pure_ok.mp h).symm⟩
  · exact .inr (decodePresent_ok.mp h)

theorem decodeSlot_of_missing {slot : Slot} {entries : List (Value × Value)}
    (isOptional : slot.isOptional = true) (missing : Value.lookup? slot.key entries = none) :
    decodeSlotWith (.dict entries) (p.entryDecoder (.dict entries)) slot = .ok .null := by
  simp only [decodeSlotWith, isOptional, ↓reduceIte, Value.holds_dict, missing]
  rfl

theorem decodeSlot_of_unresolved {slot : Slot} {entries : List (Value × Value)} {scope : String}
    (asked : slot.isOptional = true → (Value.lookup? slot.key entries).isSome = true)
    (unresolved : slot.shape.unresolved? = some scope) :
    decodeSlotWith (.dict entries) (p.entryDecoder (.dict entries)) slot =
      .error (.undefinedName scope) := by
  simp only [decodeSlotWith, decodePresentWith, unresolved, Value.holds_dict]
  split
  · rename_i isOptional
    rw [asked isOptional]
    rfl
  · rfl

theorem decodeSlot_of_found {slot : Slot} {entries : List (Value × Value)} {j : Value}
    (found : Value.lookup? slot.key entries = some j) (resolved : slot.shape.unresolved? = none) :
    decodeSlotWith (.dict entries) (p.entryDecoder (.dict entries)) slot =
      p.decodeShape j slot.shape := by
  have entry : p.entryDecoder (.dict entries) slot.key slot.shape = p.decodeShape j slot.shape := by
    simp only [entryDecoder_eq, Value.entry, Value.core, found]
    rfl
  simp only [decodeSlotWith, decodePresentWith, resolved, Value.holds_dict, found, entry]
  split <;> rfl

/-! ## Readings -/

variable (p) in
def fields? (type : TypeName) : Option (List Field) :=
  match p.declaration? type with
  | some (.record _ fields) => some fields
  | some (.event event) => some event.fields
  | _ => none

theorem decodeItem_wrapper {ref : Reference} {name : String} {base : Base}
    (resolved : ref.selfNamed = false) (declared : p.declaration? ref.target = some (.wrapper name base))
    (m : Value) : p.decodeItem m (.reference ref) = .wrapped ref.target <$> base.convert m := by
  simp only [decodeItem_eq, decodeItemWith, resolved, declared, Bool.false_eq_true, ↓reduceIte]

theorem decodeItem_enumeration {ref : Reference} {name : String} {members : List (String × String)}
    (resolved : ref.selfNamed = false)
    (declared : p.declaration? ref.target = some (.enumeration name members)) (m : Value) :
    p.decodeItem m (.reference ref) = decodeMember ref.target members m := by
  simp only [decodeItem_eq, decodeItemWith, resolved, declared, Bool.false_eq_true, ↓reduceIte]

theorem decodeItem_object {ref : Reference} {fields : List Field} (resolved : ref.selfNamed = false)
    (found : p.fields? ref.target = some fields) (m : Value) :
    p.decodeItem m (.reference ref) =
      (.object ref.target · none) <$> decodeFieldsWith m (p.entryDecoder m) fields := by
  unfold fields? at found
  rw [decodeItem_eq]
  split at found
  · rename_i declared
    cases found
    simp only [decodeItemWith, resolved, declared, Bool.false_eq_true, ↓reduceIte]
    rfl
  · rename_i declared
    cases found
    simp only [decodeItemWith, resolved, declared, Bool.false_eq_true, ↓reduceIte]
    rfl
  · cases found

/-- What a message is read as: the message is missing where an optional entry is. -/
inductive Reading (p : Protocol) : (isOptional : Bool) → Shape → Option Value → Value → Prop
  | missing {shape : Shape} : Reading p true shape none .null
  | primitive {isOptional : Bool} {kind : Primitive} {m v : Value} : kind.convert m = .ok v →
      Reading p isOptional (.one (.primitive kind)) (some m) v
  | wrapper {isOptional : Bool} {ref : Reference} {name : String} {base : Base} {m v : Value} :
      ref.selfNamed = false → p.declaration? ref.target = some (.wrapper name base) →
      base.convert m = .ok v →
      Reading p isOptional (.one (.reference ref)) (some m) (.wrapped ref.target v)
  | member {isOptional : Bool} {ref : Reference} {name : String} {members : List (String × String)}
      {m v : Value} :
      ref.selfNamed = false → p.declaration? ref.target = some (.enumeration name members) →
      decodeMember ref.target members m = .ok v →
      Reading p isOptional (.one (.reference ref)) (some m) v
  | object {isOptional : Bool} {ref : Reference} {fields : List Field} {m : Value}
      {values : List (String × Value)} :
      ref.selfNamed = false → p.fields? ref.target = some fields →
      values.map (·.1) = fields.map (·.name) →
      (∀ pair ∈ fields.zip values, m.entry? pair.1.key = none → m.holds pair.1.key = .ok false) →
      (∀ pair ∈ fields.zip values,
        Reading p pair.1.isOptional pair.1.shape (m.entry? pair.1.key) pair.2.2) →
      Reading p isOptional (.one (.reference ref)) (some m) (.object ref.target values none)
  | list {isOptional : Bool} {item : Item} {m : Value} {items values : List Value} :
      m.items = .ok items → items.length = values.length →
      (∀ pair ∈ items.zip values, Reading p false (.one item) (some pair.1) pair.2) →
      Reading p isOptional (.many item) (some m) (.list values)

/-! ## A decoder that succeeds makes a reading -/

theorem decodeShape_reading {m v : Value} {shape : Shape} {isOptional : Bool}
    (reads : ∀ x, (x = m ∨ ∃ items, m.items = .ok items ∧ x ∈ items) →
      ∀ item v isOptional, p.decodeItem x item = .ok v → Reading p isOptional (.one item) (some x) v)
    (h : p.decodeShape m shape = .ok v) : Reading p isOptional shape (some m) v := by
  cases shape with
  | one item => exact reads m (.inl rfl) item v isOptional h
  | many item =>
      obtain ⟨values, all, rfl⟩ := map_ok.mp h
      obtain ⟨items, hitems, length, steps⟩ := decodeAll_ok.mp all
      refine .list hitems length fun pair member => ?_
      exact reads pair.1 (.inr ⟨items, hitems, (List.of_mem_zip member).1⟩) item pair.2 false
        (steps pair member)

theorem decodeSlot_reading {m v : Value} {slot : Slot}
    (reads : ∀ x, m.Reaches x → ∀ item v isOptional, p.decodeItem x item = .ok v →
      Reading p isOptional (.one item) (some x) v)
    (h : decodeSlotWith m (p.entryDecoder m) slot = .ok v) :
    (m.entry? slot.key = none → m.holds slot.key = .ok false) ∧
      Reading p slot.isOptional slot.shape (m.entry? slot.key) v := by
  rcases decodeSlot_ok h with ⟨isOptional, missing, rfl⟩ | ⟨-, w, found, h⟩
  · rw [isOptional, Value.entry?_eq_none_of_holds missing]
    exact ⟨fun _ => missing, .missing⟩
  · rw [Value.entry?_eq_some.mpr found]
    refine ⟨by simp, decodeShape_reading (fun x reached => ?_) h⟩
    exact reads x ⟨slot.key, w, found, reached⟩

theorem decodeFields_reading {m : Value} {fields : List Field} {values : List (String × Value)}
    {ref : Reference} {isOptional : Bool}
    (reads : ∀ x, m.Reaches x → ∀ item v isOptional, p.decodeItem x item = .ok v →
      Reading p isOptional (.one item) (some x) v)
    (resolved : ref.selfNamed = false) (declared : p.fields? ref.target = some fields)
    (h : decodeFieldsWith m (p.entryDecoder m) fields = .ok values) :
    Reading p isOptional (.one (.reference ref)) (some m) (.object ref.target values none) := by
  obtain ⟨names, slots⟩ := decodeFieldsWith_ok.mp h
  exact .object resolved declared names
    (fun pair member => (decodeSlot_reading reads (slots pair member)).1)
    (fun pair member => (decodeSlot_reading reads (slots pair member)).2)

theorem decodeItem_reading {m v : Value} {item : Item} {isOptional : Bool}
    (h : p.decodeItem m item = .ok v) : Reading p isOptional (.one item) (some m) v := by
  induction m using Value.entryInduction generalizing item v isOptional with
  | step m ih =>
      have reads : ∀ x, m.Reaches x → ∀ item v isOptional, p.decodeItem x item = .ok v →
          Reading p isOptional (.one item) (some x) v := fun x reached item v isOptional h =>
        ih x reached h
      rw [decodeItem_eq] at h
      cases item with
      | primitive kind => exact .primitive h
      | reference ref =>
          simp only [decodeItemWith] at h
          split at h
          · cases h
          · rename_i named
            have resolved : ref.selfNamed = false := Bool.eq_false_iff.mpr named
            split at h
            · rename_i name base declared
              obtain ⟨w, converted, rfl⟩ := map_ok.mp h
              exact .wrapper resolved declared converted
            · rename_i name members declared
              exact .member resolved declared h
            · rename_i name fields declared
              obtain ⟨values, read, made⟩ := bind_ok.mp h
              obtain rfl := pure_ok.mp made
              exact decodeFields_reading reads resolved (by simp [fields?, declared]) read
            · rename_i event declared
              obtain ⟨values, read, made⟩ := bind_ok.mp h
              obtain rfl := pure_ok.mp made
              exact decodeFields_reading reads resolved (by simp [fields?, declared]) read
            · cases h

theorem decodeSlots_reading {m : Value} {slots : List Slot} {values : List Value}
    (h : p.decodeSlots slots m = .ok values) :
    slots.length = values.length ∧ ∀ pair ∈ slots.zip values,
      (m.entry? pair.1.key = none → m.holds pair.1.key = .ok false) ∧
        Reading p pair.1.isOptional pair.1.shape (m.entry? pair.1.key) pair.2 := by
  obtain ⟨length, steps⟩ := decodeSlotsWith_ok.mp h
  refine ⟨length, fun pair member => ?_⟩
  exact decodeSlot_reading (fun x _ item v isOptional => decodeItem_reading) (steps pair member)

end Protocol

end DevTools
