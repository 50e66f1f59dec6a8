import DevTools.Proofs.Codec.Nulls

/-!
# Refusals

`Refusal` says, rule by rule, why a value cannot be read, as `Reading` says what it is read as. The slots
of a message are gone through in their order, and so are the items of a list. The first one that cannot
be read decides: it is missing, it spells a name that does not resolve, or its own value is refused. What
comes later is not looked at.
-/

namespace DevTools

/-! ## Steps that fail -/

theorem exists_ok_iff {α : Type} {x : Except Fault α} :
    (∃ a, x = .ok a) ↔ ∀ fault, ¬ x = .error fault := by
  cases x with
  | error fault => simp
  | ok a => simp

theorem loop_error {α β : Type} {step : α → Except Fault β} (loop : List α → Except Fault (List β))
    (nil : loop [] = .ok [])
    (cons : ∀ a rest, loop (a :: rest) = do
      let b ← step a
      let bs ← loop rest
      return b :: bs)
    {as : List α} {fault : Fault} :
    loop as = .error fault ↔ ∃ before a after, as = before ++ a :: after ∧
      (∀ b ∈ before, ∃ v, step b = .ok v) ∧ step a = .error fault := by
  induction as with
  | nil => simp [nil]
  | cons a rest ih =>
      rw [cons, bind_error]
      constructor
      · rintro (failed | ⟨b, read, later⟩)
        · exact ⟨[], a, rest, rfl, by simp, failed⟩
        · have failed : loop rest = .error fault := by
            rcases bind_error.mp later with failed | ⟨bs, -, impossible⟩
            · exact failed
            · cases impossible
          obtain ⟨before, c, after, rfl, reads, failed⟩ := ih.mp failed
          exact ⟨a :: before, c, after, rfl, List.forall_mem_cons.mpr ⟨⟨b, read⟩, reads⟩, failed⟩
      · rintro ⟨before, c, after, equal, reads, failed⟩
        cases before with
        | nil =>
            cases equal
            exact .inl failed
        | cons d others =>
            cases equal
            obtain ⟨⟨b, read⟩, reads⟩ := List.forall_mem_cons.mp reads
            refine .inr ⟨b, read, ?_⟩
            rw [ih.mpr ⟨others, c, after, rfl, reads, failed⟩]
            rfl

theorem decodeSlotsWith_error {m : Value} {entry : EntryDecoder} {slots : List Slot} {fault : Fault} :
    decodeSlotsWith m entry slots = .error fault ↔
      ∃ before slot after, slots = before ++ slot :: after ∧
        (∀ s ∈ before, ∃ v, decodeSlotWith m entry s = .ok v) ∧
        decodeSlotWith m entry slot = .error fault :=
  loop_error (decodeSlotsWith m entry) rfl fun _ _ => rfl

def Slot.Asked (slot : Slot) (m : Value) : Prop :=
  slot.isOptional = true → m.holds slot.key = .ok true

namespace Protocol

variable {p : Protocol}

theorem decodeItems_error {items : List Value} {item : Item} {fault : Fault} :
    p.decodeItems items item = .error fault ↔
      ∃ before v after, items = before ++ v :: after ∧
        (∀ w ∈ before, ∃ o, p.decodeItem w item = .ok o) ∧ p.decodeItem v item = .error fault :=
  loop_error (p.decodeItems · item) rfl fun _ _ => rfl

/-! ## Slots -/

theorem decodeSlot_of_asked {slot : Slot} {m : Value} (asked : slot.Asked m)
    (resolved : slot.shape.unresolved? = none) :
    decodeSlotWith m (p.entryDecoder m) slot = (m.entry slot.key >>= fun v => p.decodeShape v slot.shape) := by
  simp only [decodeSlotWith, decodePresentWith, resolved, entryDecoder_eq]
  split
  · rename_i isOptional
    rw [asked isOptional]
    rfl
  · rfl

theorem decodeSlot_of_absent {slot : Slot} {m : Value} (isOptional : slot.isOptional = true)
    (absent : m.holds slot.key = .ok false) :
    decodeSlotWith m (p.entryDecoder m) slot = .ok .null := by
  simp only [decodeSlotWith, isOptional, ↓reduceIte, absent]
  rfl

theorem decodeSlot_of_unbound {slot : Slot} {m : Value} {scope : String} (asked : slot.Asked m)
    (unresolved : slot.shape.unresolved? = some scope) :
    decodeSlotWith m (p.entryDecoder m) slot = .error (.undefinedName scope) := by
  simp only [decodeSlotWith, decodePresentWith, unresolved]
  split
  · rename_i isOptional
    rw [asked isOptional]
    rfl
  · rfl

theorem decodeSlot_error {slot : Slot} {m : Value} {fault : Fault}
    (failed : decodeSlotWith m (p.entryDecoder m) slot = .error fault) :
    (slot.isOptional = true ∧ m.holds slot.key = .error fault) ∨ slot.Asked m := by
  cases isOptional : slot.isOptional with
  | false => exact .inr fun required => by simp [isOptional] at required
  | true =>
      cases held : m.holds slot.key with
      | error other =>
          simp only [decodeSlotWith, isOptional, ↓reduceIte, held] at failed
          cases failed
          exact .inl ⟨rfl, rfl⟩
      | ok present =>
          cases present with
          | true => exact .inr fun _ => held
          | false =>
              rw [decodeSlot_of_absent isOptional held] at failed
              cases failed

/-! ## Readings are what the decoder returns -/

theorem Reading.isOptional {isOptional : Bool} {shape : Shape} {v : Value}
    (reading : Reading p isOptional shape none v) : isOptional = true := by
  cases reading
  rfl

theorem decodeSlot_of_reading {slot : Slot} {m v : Value}
    (absent : m.entry? slot.key = none → m.holds slot.key = .ok false)
    (reading : Reading p slot.isOptional slot.shape (m.entry? slot.key) v)
    (decoded : ∀ w, m.entry? slot.key = some w →
      slot.shape.unresolved? = none ∧ p.decodeShape w slot.shape = .ok v) :
    decodeSlotWith m (p.entryDecoder m) slot = .ok v := by
  cases found : m.entry? slot.key with
  | none =>
      rw [found] at reading
      rw [reading.eq_null]
      exact decodeSlot_of_absent reading.isOptional (absent found)
  | some w =>
      obtain ⟨resolved, read⟩ := decoded w found
      have entry := Value.entry?_eq_some.mp found
      rw [decodeSlot_of_asked (fun _ => Value.holds_of_entry entry) resolved, entry]
      exact read

theorem Reading.decodeShape {isOptional : Bool} {shape : Shape} {m? : Option Value} {v : Value}
    (reading : Reading p isOptional shape m? v) :
    ∀ m, m? = some m → shape.unresolved? = none ∧ p.decodeShape m shape = .ok v := by
  induction reading with
  | missing => rintro _ ⟨⟩
  | primitive converted =>
      rintro _ ⟨⟩
      exact ⟨rfl, (p.decodeItem_eq _ _).trans converted⟩
  | wrapper resolved declared converted =>
      rintro _ ⟨⟩
      refine ⟨by simp [Shape.unresolved?, resolved], (decodeItem_wrapper resolved declared _).trans ?_⟩
      rw [converted]
      rfl
  | member resolved declared decoded =>
      rintro _ ⟨⟩
      exact ⟨by simp [Shape.unresolved?, resolved],
        (decodeItem_enumeration resolved declared _).trans decoded⟩
  | @object _ ref fields m values resolved found names absent readings ih =>
      rintro _ ⟨⟩
      refine ⟨by simp [Shape.unresolved?, resolved], (decodeItem_object resolved found _).trans ?_⟩
      refine map_ok.mpr ⟨values, decodeFieldsWith_ok.mpr ⟨names, fun pair member => ?_⟩, rfl⟩
      exact decodeSlot_of_reading (absent pair member) (readings pair member) (ih pair member)
  | @list _ item m items values hitems length _ ih =>
      rintro _ ⟨⟩
      refine ⟨rfl, map_ok.mpr ⟨values, decodeAll_ok.mpr ⟨items, hitems, length, ?_⟩, rfl⟩⟩
      exact fun pair member => (ih pair member _ rfl).2

theorem reading_iff {item : Item} {v o : Value} :
    Reading p false (.one item) (some v) o ↔ p.decodeItem v item = .ok o :=
  ⟨fun reading => (reading.decodeShape v rfl).2, decodeItem_reading⟩

variable (p) in
def Readable (slot : Slot) (m : Value) : Prop :=
  (m.entry? slot.key = none → m.holds slot.key = .ok false) ∧
    ∃ v, Reading p slot.isOptional slot.shape (m.entry? slot.key) v

theorem readable_iff {slot : Slot} {m : Value} :
    p.Readable slot m ↔ ∃ v, decodeSlotWith m (p.entryDecoder m) slot = .ok v := by
  constructor
  · rintro ⟨absent, v, reading⟩
    exact ⟨v, decodeSlot_of_reading absent reading reading.decodeShape⟩
  · rintro ⟨v, read⟩
    obtain ⟨absent, reading⟩ := decodeSlot_reading (fun x _ item v isOptional => decodeItem_reading) read
    exact ⟨absent, v, reading⟩

/-! ## Refusals -/

/-- Why a value is refused at a place. The first slot and the first item that cannot be read decide. -/
inductive Refusal (p : Protocol) : Place → Value → Fault → Prop
  | primitive {kind : Primitive} {m : Value} {fault : Fault} : kind.convert m = .error fault →
      Refusal p (.shape (.one (.primitive kind))) m fault
  | wrapper {ref : Reference} {name : String} {base : Base} {m : Value} {fault : Fault} :
      ref.selfNamed = false → p.declaration? ref.target = some (.wrapper name base) →
      base.convert m = .error fault → Refusal p (.shape (.one (.reference ref))) m fault
  | member {ref : Reference} {name : String} {members : List (String × String)} {m : Value}
      {fault : Fault} :
      ref.selfNamed = false → p.declaration? ref.target = some (.enumeration name members) →
      decodeMember ref.target members m = .error fault →
      Refusal p (.shape (.one (.reference ref))) m fault
  | record {ref : Reference} {fields : List Field} {m : Value} {fault : Fault} :
      ref.selfNamed = false → p.fields? ref.target = some fields →
      Refusal p (.message (fields.map (·.toSlot))) m fault →
      Refusal p (.shape (.one (.reference ref))) m fault
  -- The reference spells the name of its own domain, or one that is not declared.
  | outOfScope {ref : Reference} {m : Value} : ref.selfNamed = true →
      Refusal p (.shape (.one (.reference ref))) m (.undefinedName ref.target.domain)
  | undeclared {ref : Reference} {m : Value} : ref.selfNamed = false →
      p.declaration? ref.target = none →
      Refusal p (.shape (.one (.reference ref))) m (.undefinedName ref.target.name)
  | items {item : Item} {m : Value} {fault : Fault} : m.items = .error fault →
      Refusal p (.shape (.many item)) m fault
  | item (before : List Value) {item : Item} {m v : Value} {after : List Value} {fault : Fault} :
      m.items = .ok (before ++ v :: after) →
      (∀ w ∈ before, ∃ o, Reading p false (.one item) (some w) o) →
      Refusal p (.shape (.one item)) v fault → Refusal p (.shape (.many item)) m fault
  -- The message cannot be asked for a key at all.
  | unsearchable (before : List Slot) {slot : Slot} {after : List Slot} {m : Value} {fault : Fault} :
      (∀ s ∈ before, p.Readable s m) → slot.isOptional = true → m.holds slot.key = .error fault →
      Refusal p (.message (before ++ slot :: after)) m fault
  -- The name is looked up before the entry is, so it does not matter what the entry is.
  | unresolved (before : List Slot) {slot : Slot} {after : List Slot} {m : Value} {scope : String} :
      (∀ s ∈ before, p.Readable s m) → slot.Asked m → slot.shape.unresolved? = some scope →
      Refusal p (.message (before ++ slot :: after)) m (.undefinedName scope)
  | missing (before : List Slot) {slot : Slot} {after : List Slot} {m : Value} {fault : Fault} :
      (∀ s ∈ before, p.Readable s m) → slot.Asked m → slot.shape.unresolved? = none →
      m.entry slot.key = .error fault → Refusal p (.message (before ++ slot :: after)) m fault
  | entry (before : List Slot) {slot : Slot} {after : List Slot} {m v : Value} {fault : Fault} :
      (∀ s ∈ before, p.Readable s m) → slot.Asked m → slot.shape.unresolved? = none →
      m.entry slot.key = .ok v → Refusal p (.shape slot.shape) v fault →
      Refusal p (.message (before ++ slot :: after)) m fault

variable (p) in
def Fails : Place → Value → Fault → Prop
  | .shape shape, v, fault => p.decodeShape v shape = .error fault
  | .message slots, m, fault => p.decodeSlots slots m = .error fault

theorem decodeItem_object_error {ref : Reference} {fields : List Field} {m : Value} {fault : Fault}
    (resolved : ref.selfNamed = false) (found : p.fields? ref.target = some fields) :
    p.decodeItem m (.reference ref) = .error fault ↔
      p.decodeSlots (fields.map (·.toSlot)) m = .error fault := by
  rw [decodeItem_object resolved found, decodeFieldsWith_eq, map_error, map_error]
  rfl

theorem decode_object_ok {type : TypeName} {fields : List Field} {m : Value}
    (found : p.fields? type = some fields) :
    (∃ values, p.decode type m = .ok (.object type values none)) ↔
      ∃ values, p.decodeSlots (fields.map (·.toSlot)) m = .ok values := by
  have decoded : p.decode type m = _ := @decodeItem_object p ⟨type, false⟩ fields rfl found m
  rw [decodeFieldsWith_eq] at decoded
  constructor
  · rintro ⟨values, read⟩
    obtain ⟨_, read, -⟩ := map_ok.mp (decoded.symm.trans read)
    obtain ⟨parts, read, -⟩ := map_ok.mp read
    exact ⟨parts, read⟩
  · rintro ⟨parts, read⟩
    refine ⟨(fields.map (·.name)).zip parts, decoded.trans ?_⟩
    exact map_ok.mpr ⟨_, map_ok.mpr ⟨parts, read, rfl⟩, rfl⟩

theorem decodeSlots_error {before after : List Slot} {slot : Slot} {m : Value} {fault : Fault}
    (readable : ∀ s ∈ before, p.Readable s m)
    (failed : decodeSlotWith m (p.entryDecoder m) slot = .error fault) :
    p.decodeSlots (before ++ slot :: after) m = .error fault :=
  decodeSlotsWith_error.mpr
    ⟨before, slot, after, rfl, fun s member => readable_iff.mp (readable s member), failed⟩

theorem decodeAll_error {m : Value} {item : Item} {fault : Fault} :
    p.decodeShape m (.many item) = .error fault ↔
      m.items = .error fault ∨ ∃ items, m.items = .ok items ∧ p.decodeItems items item = .error fault := by
  show Value.list <$> p.decodeAll m item = .error fault ↔ _
  rw [map_error, decodeAll_eq, bind_error]

theorem Refusal.fails {place : Place} {m : Value} {fault : Fault} (refusal : Refusal p place m fault) :
    p.Fails place m fault := by
  induction refusal with
  | primitive converted => exact (p.decodeItem_eq _ _).trans converted
  | wrapper resolved declared converted =>
      exact (decodeItem_wrapper resolved declared _).trans (map_error.mpr converted)
  | member resolved declared refused => exact (decodeItem_enumeration resolved declared _).trans refused
  | record resolved found _ ih => exact (decodeItem_object_error resolved found).mpr ih
  | outOfScope named =>
      refine (p.decodeItem_eq _ _).trans ?_
      simp only [decodeItemWith, named, ↓reduceIte]
  | undeclared resolved undeclared =>
      refine (p.decodeItem_eq _ _).trans ?_
      simp only [decodeItemWith, resolved, undeclared, Bool.false_eq_true, ↓reduceIte]
  | items refused => exact decodeAll_error.mpr (.inl refused)
  | item before hitems readings _ ih =>
      refine decodeAll_error.mpr (.inr ⟨_, hitems, decodeItems_error.mpr ⟨before, _, _, rfl, ?_, ih⟩⟩)
      intro w member
      obtain ⟨o, reading⟩ := readings w member
      exact ⟨o, reading_iff.mp reading⟩
  | unsearchable before readable isOptional refused =>
      refine decodeSlots_error readable ?_
      simp only [decodeSlotWith, isOptional, ↓reduceIte, refused]
      rfl
  | unresolved before readable asked unresolved =>
      exact decodeSlots_error readable (decodeSlot_of_unbound asked unresolved)
  | missing before readable asked resolved refused =>
      refine decodeSlots_error readable ?_
      rw [decodeSlot_of_asked asked resolved, refused]
      rfl
  | entry before readable asked resolved found _ ih =>
      refine decodeSlots_error readable ?_
      rw [decodeSlot_of_asked asked resolved, found]
      exact ih

/-! ## A decoder that fails makes a refusal -/

theorem decodeShape_refusal {m : Value} {shape : Shape} {fault : Fault}
    (refuses : ∀ x, (x = m ∨ ∃ items, m.items = .ok items ∧ x ∈ items) → ∀ item fault,
      p.decodeItem x item = .error fault → Refusal p (.shape (.one item)) x fault)
    (failed : p.decodeShape m shape = .error fault) : Refusal p (.shape shape) m fault := by
  cases shape with
  | one item => exact refuses m (.inl rfl) item fault failed
  | many item =>
      rcases decodeAll_error.mp failed with refused | ⟨items, hitems, failed⟩
      · exact .items refused
      · obtain ⟨before, v, after, rfl, reads, failed⟩ := decodeItems_error.mp failed
        have inside : v ∈ before ++ v :: after := List.mem_append_right _ List.mem_cons_self
        have refusal := refuses v (.inr ⟨_, hitems, inside⟩) item fault failed
        refine .item before hitems (fun w member => ?_) refusal
        obtain ⟨o, read⟩ := reads w member
        exact ⟨o, reading_iff.mpr read⟩

theorem decodeSlots_refusal {m : Value} {slots : List Slot} {fault : Fault}
    (refuses : ∀ x, m.Reaches x → ∀ item fault, p.decodeItem x item = .error fault →
      Refusal p (.shape (.one item)) x fault)
    (failed : p.decodeSlots slots m = .error fault) : Refusal p (.message slots) m fault := by
  obtain ⟨before, slot, after, rfl, reads, failed⟩ := decodeSlotsWith_error.mp failed
  have readable : ∀ s ∈ before, p.Readable s m := fun s member => readable_iff.mpr (reads s member)
  rcases decodeSlot_error failed with ⟨isOptional, refused⟩ | asked
  · exact .unsearchable before readable isOptional refused
  · cases named : slot.shape.unresolved? with
    | some scope =>
        rw [decodeSlot_of_unbound asked named] at failed
        cases failed
        exact .unresolved before readable asked named
    | none =>
        rw [decodeSlot_of_asked asked named] at failed
        rcases bind_error.mp failed with refused | ⟨w, found, failed⟩
        · exact .missing before readable asked named refused
        · refine .entry before readable asked named found (decodeShape_refusal (fun x reached => ?_) failed)
          exact refuses x ⟨slot.key, w, found, reached⟩

theorem decodeItem_refusal {m : Value} {item : Item} {fault : Fault}
    (failed : p.decodeItem m item = .error fault) : Refusal p (.shape (.one item)) m fault := by
  induction m using Value.entryInduction generalizing item fault with
  | step m ih =>
      have refuses : ∀ x, m.Reaches x → ∀ item fault, p.decodeItem x item = .error fault →
          Refusal p (.shape (.one item)) x fault := fun x reached item fault failed => ih x reached failed
      cases item with
      | primitive kind => exact .primitive ((p.decodeItem_eq m (.primitive kind)).symm.trans failed)
      | reference ref =>
          cases named : ref.selfNamed with
          | true =>
              simp only [decodeItem_eq, decodeItemWith, named, ↓reduceIte] at failed
              cases failed
              exact .outOfScope named
          | false =>
              cases declared : p.declaration? ref.target with
              | none =>
                  simp only [decodeItem_eq, decodeItemWith, named, declared, Bool.false_eq_true, ↓reduceIte]
                    at failed
                  cases failed
                  exact .undeclared named declared
              | some declaration =>
                  cases declaration with
                  | wrapper name base =>
                      rw [decodeItem_wrapper named declared, map_error] at failed
                      exact .wrapper named declared failed
                  | enumeration name members =>
                      rw [decodeItem_enumeration named declared] at failed
                      exact .member named declared failed
                  | record name fields =>
                      have found : p.fields? ref.target = some fields := by simp only [fields?, declared]
                      rw [decodeItem_object_error named found] at failed
                      exact .record named found (decodeSlots_refusal refuses failed)
                  | event event =>
                      have found : p.fields? ref.target = some event.fields := by
                        simp only [fields?, declared]
                      rw [decodeItem_object_error named found] at failed
                      exact .record named found (decodeSlots_refusal refuses failed)

theorem refusal_iff {place : Place} {m : Value} {fault : Fault} :
    Refusal p place m fault ↔ p.Fails place m fault := by
  refine ⟨Refusal.fails, fun failed => ?_⟩
  cases place with
  | shape shape => exact decodeShape_refusal (fun x _ item fault => decodeItem_refusal) failed
  | message slots => exact decodeSlots_refusal (fun x _ item fault => decodeItem_refusal) failed

/-! ## Dictionaries -/

inductive SlotRefusal (p : Protocol) (slot : Slot) : (found? : Option Value) → Fault → Prop
  | missing : slot.isOptional = false → slot.shape.unresolved? = none →
      SlotRefusal p slot none (.missingKey (.text slot.key))
  | unresolved {found? : Option Value} {scope : String} :
      (slot.isOptional = true → found?.isSome = true) → slot.shape.unresolved? = some scope →
      SlotRefusal p slot found? (.undefinedName scope)
  | entry {v : Value} {fault : Fault} : slot.shape.unresolved? = none →
      Refusal p (.shape slot.shape) v fault → SlotRefusal p slot (some v) fault

theorem slotRefusal_iff {slot : Slot} {found? : Option Value} {fault : Fault} :
    SlotRefusal p slot found? fault ↔ p.decodeFound slot found? = .error fault := by
  constructor
  · intro refusal
    cases refusal with
    | missing required resolved => simp only [decodeFound, required, resolved, Bool.false_eq_true, ↓reduceIte]
    | unresolved asked named =>
        cases found? with
        | some v => simp only [decodeFound, named]
        | none =>
            cases isOptional : slot.isOptional with
            | true => cases asked isOptional
            | false => simp only [decodeFound, isOptional, named, Bool.false_eq_true, ↓reduceIte]
    | entry resolved refusal =>
        simp only [decodeFound, resolved]
        exact refusal.fails
  · intro failed
    cases found? with
    | some v =>
        cases named : slot.shape.unresolved? with
        | some scope =>
            simp only [decodeFound, named] at failed
            cases failed
            exact .unresolved (fun _ => rfl) named
        | none =>
            simp only [decodeFound, named] at failed
            exact .entry named (refusal_iff.mpr failed)
    | none =>
        cases isOptional : slot.isOptional with
        | true =>
            simp only [decodeFound, isOptional, ↓reduceIte] at failed
            cases failed
        | false =>
            simp only [decodeFound, isOptional, Bool.false_eq_true, ↓reduceIte] at failed
            cases named : slot.shape.unresolved? with
            | some scope =>
                rw [named] at failed
                cases failed
                exact .unresolved (by simp [isOptional]) named
            | none =>
                rw [named] at failed
                cases failed
                exact .missing isOptional named

variable (p) in
def FirstRefusal (slots : List Slot) (entries : List (Value × Value)) (fault : Fault)
    (after : List Slot) : Prop :=
  ∃ before slot, slots = before ++ slot :: after ∧
    (∀ s ∈ before, ∀ other, ¬ SlotRefusal p s (Value.lookup? s.key entries) other) ∧
    SlotRefusal p slot (Value.lookup? slot.key entries) fault

section

variable {slots : List Slot} {m : Value} {entries : List (Value × Value)} {fault : Fault}

theorem decodeSlot_ok_iff (dict : m.core = .dict entries) {slot : Slot} :
    (∃ v, decodeSlotWith m (p.entryDecoder m) slot = .ok v) ↔
      ∀ other, ¬ SlotRefusal p slot (Value.lookup? slot.key entries) other := by
  simp only [slotRefusal_iff, decodeSlot_eq dict]
  exact exists_ok_iff

theorem decodeSlots_error_iff (dict : m.core = .dict entries) :
    p.decodeSlots slots m = .error fault ↔ ∃ after, p.FirstRefusal slots entries fault after := by
  unfold decodeSlots FirstRefusal
  simp only [decodeSlotsWith_error, exists_ok_iff, slotRefusal_iff, decodeSlot_eq dict]
  constructor
  · rintro ⟨before, slot, after, found⟩
    exact ⟨after, before, slot, found⟩
  · rintro ⟨after, before, slot, found⟩
    exact ⟨before, slot, after, found⟩

theorem decodeSlots_ok_iff (dict : m.core = .dict entries) :
    (∃ values, p.decodeSlots slots m = .ok values) ↔
      ∀ slot ∈ slots, ∀ other, ¬ SlotRefusal p slot (Value.lookup? slot.key entries) other := by
  constructor
  · rintro ⟨values, read⟩ slot member
    obtain ⟨length, steps⟩ := decodeSlotsWith_ok.mp read
    obtain ⟨v, paired⟩ := exists_mem_zip length member
    exact (decodeSlot_ok_iff dict).mp ⟨v, steps _ paired⟩
  · intro none
    refine exists_ok_iff.mpr fun fault failed => ?_
    obtain ⟨after, before, slot, rfl, -, refusal⟩ := (decodeSlots_error_iff dict).mp failed
    exact none slot (List.mem_append_right _ List.mem_cons_self) fault refusal

theorem FirstRefusal.congr {after : List Slot} {entries' : List (Value × Value)}
    (distinct : (slots.map (·.key)).Nodup) (first : p.FirstRefusal slots entries fault after)
    (same : ∀ key, (∀ s ∈ after, s.key ≠ key) → Value.lookup? key entries' = Value.lookup? key entries) :
    p.FirstRefusal slots entries' fault after := by
  obtain ⟨before, slot, rfl, earlier, refusal⟩ := first
  rw [List.append_cons, List.map_append, List.nodup_append] at distinct
  have kept : ∀ s ∈ before ++ [slot], Value.lookup? s.key entries' = Value.lookup? s.key entries := by
    intro s member
    refine same s.key fun t later equal => ?_
    exact distinct.2.2 _ (List.mem_map_of_mem member) _ (List.mem_map_of_mem later) equal.symm
  refine ⟨before, slot, rfl, fun s member => ?_, ?_⟩
  · rw [kept s (List.mem_append_left _ member)]
    exact earlier s member
  · rw [kept slot (List.mem_append_right _ List.mem_cons_self)]
    exact refusal

end

/-- A message with the slots is read slot by slot, up to the first that is refused. `fails` and `returns`
tell how the reading ends. -/
structure ReadInOrder (p : Protocol) (slots : List Slot) (m : Value) (entries : List (Value × Value))
    (fails : Value → Fault → Prop) (returns : Value → Prop) : Prop where
  first : ∀ fault, fails m fault ↔ ∃ after, p.FirstRefusal slots entries fault after
  -- Entries of later slots may be replaced, added and removed.
  later : ∀ fault after, p.FirstRefusal slots entries fault after → ∀ m' entries', m'.core = .dict entries' →
    (∀ key, (∀ s ∈ after, s.key ≠ key) → Value.lookup? key entries' = Value.lookup? key entries) →
    fails m' fault
  complete : returns m ↔
    ∀ slot ∈ slots, ∀ fault, ¬ SlotRefusal p slot (Value.lookup? slot.key entries) fault

theorem decodeSlots_readInOrder {slots : List Slot} {m : Value} {entries : List (Value × Value)}
    {fails : Value → Fault → Prop} {returns : Value → Prop} (dict : m.core = .dict entries)
    (distinct : (slots.map (·.key)).Nodup)
    (failure : ∀ m fault, fails m fault ↔ p.decodeSlots slots m = .error fault)
    (success : ∀ m, returns m ↔ ∃ values, p.decodeSlots slots m = .ok values) :
    ReadInOrder p slots m entries fails returns where
  first fault := (failure m fault).trans (decodeSlots_error_iff dict)
  later fault after first m' _ dict' same :=
    (failure m' fault).mpr ((decodeSlots_error_iff dict').mpr ⟨after, first.congr distinct same⟩)
  complete := (success m).trans (decodeSlots_ok_iff dict)

end Protocol

section

variable {p : Protocol} {command : Command} {m : Value}

theorem Command.resume_error {fault : Fault} :
    Exchange.resume p m (.requested command) = (.fault fault, .finished) ↔
      p.decodeSlots command.returns m = .error fault := by
  simp only [Exchange.resume, Command.result]
  cases p.decodeSlots command.returns m with
  | error other => simp [bind, Except.bind]
  | ok values => simp [bind, Except.bind, pure, Except.pure]

theorem Command.resume_ok {values : List Value} (read : p.decodeSlots command.returns m = .ok values) :
    Exchange.resume p m (.requested command) = (.result (resultOf values), .finished) := by
  simp only [Exchange.resume, Command.result, read]
  rfl

end

/-! ## The statement -/

theorem return_keys_distinct :
    (protocol.commands.all fun entry => decide (entry.2.returns.map (·.key)).Nodup) = true := by
  decide +kernel

open Protocol

/-- The first field of a record or event that is refused decides how a dictionary is refused, and so does
the first value that a command returns. In a record, the required fields come first. -/
theorem first_refusal_decides {m : Value} {entries : List (Value × Value)} (dict : m.core = .dict entries) :
    (∀ type fields, protocol.fields? type = some fields →
      ReadInOrder protocol (fields.map (·.toSlot)) m entries
        (fun m fault => protocol.decode type m = .error fault)
        (fun m => ∃ values, protocol.decode type m = .ok (.object type values none))) ∧
    (∀ scope name command, protocol.command? scope name = some command →
      ReadInOrder protocol command.returns m entries
        (fun m fault => Exchange.resume protocol m (.requested command) = (.fault fault, .finished))
        (fun m => ∃ values, values.length = command.returns.length ∧
          Exchange.resume protocol m (.requested command) =
            (.result (Command.resultOf values), .finished))) ∧
    (∀ shape v fault, protocol.decodeShape v shape = .error fault ↔
      Refusal protocol (.shape shape) v fault) ∧
    (∀ type name fields, protocol.declaration? type = some (.record name fields) →
      fields.Pairwise fun a b => a.isOptional = true → b.isOptional = true) := by
  refine ⟨fun type fields found => ?_, fun scope name command declared => ?_,
    fun shape v fault => (@refusal_iff protocol (.shape shape) v fault).symm,
    fun type name fields declared => (protocol_isRegular type name fields declared).ordered⟩
  · refine decodeSlots_readInOrder dict ?_ (fun m fault => ?_) (fun m => decode_object_ok found)
    · rw [List.map_map]
      exact (fields?_distinct found).2
    · exact @decodeItem_object_error protocol ⟨type, false⟩ fields m fault rfl found
  · have keys := List.all_eq_true.mp return_keys_distinct _ (mem_commands declared).1
    refine decodeSlots_readInOrder dict (of_decide_eq_true keys) (fun m fault => Command.resume_error)
      (fun m => ⟨?_, ?_⟩)
    · rintro ⟨values, -, resumed⟩
      refine exists_ok_iff.mpr fun fault failed => ?_
      rw [Command.resume_error.mpr failed] at resumed
      cases resumed
    · rintro ⟨values, read⟩
      exact ⟨values, (decodeSlotsWith_ok.mp read).1.symm, Command.resume_ok read⟩

def frame (url : List (Value × Value)) : Value :=
  .dict (url ++ [ (.text "functionName", .text "f"), (.text "scriptId", .text "3"),
    (.text "lineNumber", .int 1), (.text "columnNumber", .int 2) ])

-- The second frame has no address. An exception would be read after the trace, though it is written first.
def thrown (exception : List (Value × Value)) : List (Value × Value) :=
  exception ++ [ (.text "exceptionId", .int 1), (.text "text", .text "Uncaught"),
    (.text "lineNumber", .int 1), (.text "columnNumber", .int 2),
    (.text "stackTrace", .dict
      [(.text "callFrames", .list [frame [(.text "url", .text "u")], frame []])]) ]

theorem frames_refused : Refusal protocol (.shape (.many (.ref "runtime" "CallFrame")))
    (.list [frame [(.text "url", .text "u")], frame []]) (.missingKey (.text "url")) := by
  refine .item [frame [(.text "url", .text "u")]] rfl (fun w member => ?_) ?_
  · rw [List.mem_singleton.mp member]
    exact ⟨_, reading_iff.mpr rfl⟩
  · have named : ∀ s ∈ [Slot.required "functionName" (.one .text),
        .required "scriptId" (.one (.ref "runtime" "ScriptId"))], protocol.Readable s (frame []) := by
      intro s member
      simp only [List.mem_cons, List.not_mem_nil, or_false] at member
      rcases member with rfl | rfl
      · exact readable_iff.mpr ⟨_, rfl⟩
      · exact readable_iff.mpr ⟨_, rfl⟩
    exact .record rfl rfl (.missing _ named (by rintro ⟨⟩) rfl rfl)

def slotsBeforeTrace : List Slot :=
  [ .required "exceptionId" (.one .integer), .required "text" (.one .text),
    .required "lineNumber" (.one .integer), .required "columnNumber" (.one .integer),
    .optional "scriptId" (.one (.ref "runtime" "ScriptId")), .optional "url" (.one .text) ]

def slotsAfterTrace : List Slot :=
  [ .optional "exception" (.one (.ref "runtime" "RemoteObject")),
    .optional "executionContextId" (.one (.ref "runtime" "ExecutionContextId")),
    .optional "exceptionMetaData" (.one .dict) ]

theorem trace_refused : protocol.FirstRefusal
    (slotsBeforeTrace ++ .optional "stackTrace" (.one (.ref "runtime" "StackTrace")) :: slotsAfterTrace)
    (thrown []) (.missingKey (.text "url")) slotsAfterTrace := by
  have earlier : ∀ s ∈ slotsBeforeTrace, ∀ other,
      ¬ SlotRefusal protocol s (Value.lookup? s.key (thrown [])) other :=
    (decodeSlots_ok_iff (m := .dict (thrown [])) rfl).mp ⟨_, rfl⟩
  refine ⟨slotsBeforeTrace, _, rfl, earlier, .entry rfl (.record rfl rfl ?_)⟩
  exact .entry [] (by simp) (by rintro ⟨⟩) rfl rfl frames_refused

-- A response that tells of the exception. The result is read before it.
def evaluated : List (Value × Value) :=
  [ (.text "exceptionDetails", .dict (thrown [])),
    (.text "result", .dict [(.text "type", .text "undefined")]) ]

theorem exception_refused : protocol.FirstRefusal
    [ .required "result" (.one (.ref "runtime" "RemoteObject")),
      .optional "exceptionDetails" (.one (.ref "runtime" "ExceptionDetails")) ]
    evaluated (.missingKey (.text "url")) [] := by
  have earlier : ∀ s ∈ [Slot.required "result" (.one (.ref "runtime" "RemoteObject"))], ∀ other,
      ¬ SlotRefusal protocol s (Value.lookup? s.key evaluated) other :=
    (decodeSlots_ok_iff (m := .dict evaluated) rfl).mp ⟨_, rfl⟩
  have details : Refusal protocol (.message (slotsBeforeTrace ++
      .optional "stackTrace" (.one (.ref "runtime" "StackTrace")) :: slotsAfterTrace))
      (.dict (thrown [])) (.missingKey (.text "url")) :=
    refusal_iff.mpr ((decodeSlots_error_iff rfl).mpr ⟨_, trace_refused⟩)
  exact ⟨_, .optional "exceptionDetails" (.one (.ref "runtime" "ExceptionDetails")), rfl, earlier,
    .entry rfl (.record rfl rfl details)⟩

theorem first_refusal_decides_thrown :
    protocol.decode ⟨"runtime", "ExceptionDetails"⟩ (.dict (thrown [])) =
      .error (.missingKey (.text "url")) ∧
    protocol.decode ⟨"runtime", "ExceptionDetails"⟩ (.dict (thrown [(.text "exception", .int 5)])) =
      .error (.missingKey (.text "url")) ∧
    ∃ command, protocol.command? "runtime" "evaluate" = some command ∧
      Exchange.resume protocol (.dict evaluated) (.requested command) =
        (.fault (.missingKey (.text "url")), .finished) := by
  obtain ⟨types, -⟩ := @first_refusal_decides (.dict (thrown [])) _ rfl
  obtain ⟨-, commands, -⟩ := @first_refusal_decides (.dict evaluated) _ rfl
  have details := types ⟨"runtime", "ExceptionDetails"⟩ _ rfl
  refine ⟨(details.first _).mpr ⟨_, trace_refused⟩,
    details.later _ _ trace_refused _ (thrown [(.text "exception", .int 5)]) rfl fun key other => ?_,
    _, rfl, ((commands "runtime" "evaluate" _ rfl).first _).mpr ⟨_, exception_refused⟩⟩
  have differs : (Value.text "exception").isText key = false :=
    beq_false_of_ne (other _ List.mem_cons_self)
  exact (Value.lookup?_cons key _ _ _).trans (if_neg (by simp [differs]))

end DevTools
