import DevTools.Exchange
import DevTools.Proofs.Codec.Reading

/-!
# Types of values

`Typed` says that a value has exactly the type that a shape spells, with everything in it; null stands
only where the entry is optional. `Mirrors` says how a value goes with the message it was read from:
which fields are null, and what is kept as it was. Decoding is sound: whatever it returns, from a type,
an event or the response to a command, has its type and mirrors its message.
-/

namespace DevTools

def Shape.ofType (type : TypeName) : Shape :=
  .one (.reference ⟨type, false⟩)

/-- A missing entry is the only reason for null, unless the entry may be anything. -/
def Slot.Presence (slot : Slot) (m v : Value) : Prop :=
  slot.isOptional = true → slot.shape ≠ .one .any → (v = .null ↔ m.holds slot.key = .ok false)

theorem Primitive.admits_of_convert {kind : Primitive} {m v : Value}
    (converted : kind.convert m = .ok v) : kind.admits v = true := by
  cases kind with
  | text =>
      obtain ⟨s, -, rfl⟩ := map_ok.mp converted
      rfl
  | boolean => cases converted; rfl
  | any => rfl
  | integer =>
      obtain ⟨n, -, rfl⟩ := map_ok.mp converted
      rfl
  | number =>
      obtain ⟨x, -, rfl⟩ := map_ok.mp converted
      rfl
  | dict =>
      obtain ⟨entries, -, rfl⟩ := map_ok.mp converted
      rfl

theorem Base.admits_of_convert {base : Base} {m v : Value} (converted : base.convert m = .ok v) :
    base.admits v = true := by
  cases base with
  | text =>
      obtain ⟨s, -, rfl⟩ := map_ok.mp converted
      rfl
  | integer =>
      obtain ⟨n, -, rfl⟩ := map_ok.mp converted
      rfl
  | number =>
      obtain ⟨x, -, rfl⟩ := map_ok.mp converted
      rfl
  | list =>
      obtain ⟨items, -, rfl⟩ := map_ok.mp converted
      rfl
  | dict =>
      obtain ⟨entries, -, rfl⟩ := map_ok.mp converted
      rfl

namespace Protocol

variable {p : Protocol} {content : Value → Prop} {usable : Reference → Prop}

/-- Exact types. `content` restricts the values of plain kinds and those inside wrappers, `usable` the
references that may be followed. -/
inductive Typed (p : Protocol) (content : Value → Prop) (usable : Reference → Prop) :
    (isOptional : Bool) → Shape → Value → Prop
  | missing {shape : Shape} : Typed p content usable true shape .null
  | primitive {isOptional : Bool} {kind : Primitive} {v : Value} : kind.admits v = true → content v →
      Typed p content usable isOptional (.one (.primitive kind)) v
  | wrapper {isOptional : Bool} {ref : Reference} {name : String} {base : Base} {v : Value} :
      usable ref → p.declaration? ref.target = some (.wrapper name base) →
      base.admits v = true → content v →
      Typed p content usable isOptional (.one (.reference ref)) (.wrapped ref.target v)
  | member {isOptional : Bool} {ref : Reference} {name : String} {members : List (String × String)}
      {member wire : String} :
      usable ref → p.declaration? ref.target = some (.enumeration name members) →
      canonicalMember? members wire = some (member, wire) →
      Typed p content usable isOptional (.one (.reference ref)) (.member ref.target member wire)
  | object {isOptional : Bool} {ref : Reference} {fields : List Field}
      {values : List (String × Value)} {id : Option Nat} :
      usable ref → p.fields? ref.target = some fields →
      values.map (·.1) = fields.map (·.name) →
      (∀ pair ∈ fields.zip values,
        Typed p content usable pair.1.isOptional pair.1.shape pair.2.2) →
      Typed p content usable isOptional (.one (.reference ref)) (.object ref.target values id)
  | list {isOptional : Bool} {item : Item} {values : List Value} :
      (∀ v ∈ values, Typed p content usable false (.one item) v) →
      Typed p content usable isOptional (.many item) (.list values)

def WellTyped (p : Protocol) (isOptional : Bool) (shape : Shape) (v : Value) : Prop :=
  Typed p (fun _ => True) (fun _ => True) isOptional shape v

theorem Typed.mono {content' : Value → Prop} {usable' : Reference → Prop} {isOptional : Bool}
    {shape : Shape} {v : Value} (contents : ∀ v, content v → content' v)
    (references : ∀ ref, usable ref → usable' ref)
    (typed : Typed p content usable isOptional shape v) :
    Typed p content' usable' isOptional shape v := by
  induction typed with
  | missing => exact .missing
  | primitive admitted inside => exact .primitive admitted (contents _ inside)
  | wrapper use declared admitted inside =>
      exact .wrapper (references _ use) declared admitted (contents _ inside)
  | member use declared canonical => exact .member (references _ use) declared canonical
  | object use declared names _ ih => exact .object (references _ use) declared names ih
  | list _ ih => exact .list ih

theorem Typed.genuine (contents : ∀ v, content v → p.Genuine v) {isOptional : Bool}
    {shape : Shape} {v : Value} (typed : Typed p content usable isOptional shape v) :
    p.Genuine v := by
  induction typed with
  | missing => rfl
  | primitive _ inside => exact contents _ inside
  | wrapper _ declared admitted inside =>
      refine Value.all_iff.mpr ⟨by simp [isWellMade, declared, admitted], fun w member => ?_⟩
      rw [List.mem_singleton.mp member]
      exact contents _ inside
  | member _ declared canonical =>
      exact Value.all_iff.mpr ⟨by simp [isWellMade, declared, canonical], by simp [Value.parts]⟩
  | object _ _ names _ ih =>
      refine Value.all_iff.mpr ⟨rfl, fun w member => ?_⟩
      obtain ⟨held, inside, rfl⟩ := List.mem_map.mp member
      obtain ⟨field, paired⟩ := exists_mem_zip_right (length_of_names names) inside
      exact ih _ paired
  | list _ ih => exact Value.all_iff.mpr ⟨rfl, ih⟩

/-! ## Readings are typed -/

theorem decodeMember_ok {type : TypeName} {name : String} {members : List (String × String)}
    {m v : Value} (declared : p.declaration? type = some (.enumeration name members))
    (genuine : p.Genuine m) (h : decodeMember type members m = .ok v) :
    ∃ member wire, v = .member type member wire ∧
      canonicalMember? members wire = some (member, wire) := by
  unfold decodeMember at h
  split at h
  · rename_i type' member wire
    split at h
    · rename_i same
      subst same
      cases h
      exact ⟨member, wire, rfl, genuine.member declared⟩
    · cases h
  · split at h
    · rename_i member wire found
      cases h
      refine ⟨member, wire, rfl, ?_⟩
      have text : m.core = .text wire := by
        have same := List.find?_some found
        simp only [Value.isText] at same
        split at same
        · rename_i r hcore
          rw [hcore, eq_of_beq same]
        · cases same
      simpa only [canonicalMember?, Value.isText, text] using found
    · cases h

/-- What can be read: what is taken out of a source is a source, and what is converted from one is
content. -/
structure Source (p : Protocol) (source content : Value → Prop) : Prop where
  genuine : ∀ {m}, source m → p.Genuine m
  entry : ∀ {m w key}, source m → m.entry key = .ok w → source w
  items : ∀ {m xs}, source m → m.items = .ok xs → ∀ x ∈ xs, source x
  primitive : ∀ {kind : Primitive} {m v}, source m → kind.convert m = .ok v → content v
  base : ∀ {base : Base} {m v}, source m → base.convert m = .ok v → content v

theorem Source.entry? {source : Value → Prop} (sources : Source p source content) {m w : Value}
    {key : String} (whole : source m) (found : m.entry? key = some w) : source w :=
  sources.entry whole (Value.entry?_eq_some.mp found)

theorem Reading.typed {source : Value → Prop} (sources : Source p source content)
    {isOptional : Bool} {shape : Shape} {m? : Option Value} {v : Value}
    (reading : Reading p isOptional shape m? v) (whole : ∀ m, m? = some m → source m) :
    Typed p content (·.selfNamed = false) isOptional shape v := by
  induction reading with
  | missing => exact .missing
  | primitive converted =>
      exact .primitive (Primitive.admits_of_convert converted)
        (sources.primitive (whole _ rfl) converted)
  | wrapper resolved declared converted =>
      exact .wrapper resolved declared (Base.admits_of_convert converted)
        (sources.base (whole _ rfl) converted)
  | member resolved declared decoded =>
      obtain ⟨member, wire, rfl, canonical⟩ :=
        decodeMember_ok declared (sources.genuine (whole _ rfl)) decoded
      exact .member resolved declared canonical
  | object resolved declared names _ _ ih =>
      exact .object resolved declared names fun pair member =>
        ih pair member fun w found => sources.entry? (whole _ rfl) found
  | @list _ item m items values hitems length _ ih =>
      refine .list fun v inside => ?_
      obtain ⟨x, member⟩ := exists_mem_zip_right length inside
      refine ih _ member fun y equal => ?_
      cases equal
      exact sources.items (whole m rfl) hitems x (List.of_mem_zip member).1

/-! ## Values and their messages -/

/-- How a value goes with the message it was read from. -/
inductive Mirrors (p : Protocol) : (isOptional : Bool) → Shape → Option Value → Value → Prop
  | missing {shape : Shape} : Mirrors p true shape none .null
  | primitive {isOptional : Bool} {kind : Primitive} {m v : Value} :
      (kind = .any → v = m) →
      (kind = .dict → ∃ entries, m.toEntries = .ok entries ∧ v = .dict entries) →
      Mirrors p isOptional (.one (.primitive kind)) (some m) v
  | wrapper {isOptional : Bool} {ref : Reference} {name : String} {base : Base} {m v : Value} :
      p.declaration? ref.target = some (.wrapper name base) →
      (base = .list → ∃ items, m.items = .ok items ∧ v = .list items) →
      (base = .dict → ∃ entries, m.toEntries = .ok entries ∧ v = .dict entries) →
      Mirrors p isOptional (.one (.reference ref)) (some m) (.wrapped ref.target v)
  | member {isOptional : Bool} {ref : Reference} {m : Value} {member wire : String} :
      Mirrors p isOptional (.one (.reference ref)) (some m) (.member ref.target member wire)
  | object {isOptional : Bool} {ref : Reference} {fields : List Field} {m : Value}
      {values : List (String × Value)} :
      p.fields? ref.target = some fields →
      values.map (·.1) = fields.map (·.name) →
      (∀ pair ∈ fields.zip values, pair.1.toSlot.Presence m pair.2.2) →
      (∀ pair ∈ fields.zip values,
        Mirrors p pair.1.isOptional pair.1.shape (m.entry? pair.1.key) pair.2.2) →
      Mirrors p isOptional (.one (.reference ref)) (some m) (.object ref.target values none)
  | list {isOptional : Bool} {item : Item} {m : Value} {items values : List Value} :
      m.items = .ok items → items.length = values.length →
      (∀ pair ∈ items.zip values, Mirrors p false (.one item) (some pair.1) pair.2) →
      Mirrors p isOptional (.many item) (some m) (.list values)

theorem Reading.eq_null {isOptional : Bool} {shape : Shape} {v : Value}
    (reading : Reading p isOptional shape none v) : v = .null := by
  cases reading
  rfl

theorem Reading.ne_null {isOptional : Bool} {shape : Shape} {m v : Value} (genuine : p.Genuine m)
    (reading : Reading p isOptional shape (some m) v) (closed : shape ≠ .one .any) : v ≠ .null := by
  cases reading with
  | primitive converted =>
      rename_i kind
      have admitted := Primitive.admits_of_convert converted
      rintro rfl
      cases kind <;> first | exact closed rfl | cases admitted
  | wrapper => simp
  | member _ declared decoded =>
      obtain ⟨member, wire, rfl, -⟩ := decodeMember_ok declared genuine decoded
      simp
  | object => simp
  | list => simp

theorem Reading.presence {slot : Slot} {m v : Value} (genuine : p.Genuine m)
    (missing : m.entry? slot.key = none → m.holds slot.key = .ok false)
    (reading : Reading p slot.isOptional slot.shape (m.entry? slot.key) v) : slot.Presence m v := by
  intro _ closed
  cases found : m.entry? slot.key with
  | none =>
      rw [found] at reading
      simp [missing found, reading.eq_null]
  | some w =>
      rw [found] at reading
      have entry := Value.entry?_eq_some.mp found
      have filled := reading.ne_null (Value.all_entry genuine entry) closed
      simp [Value.holds_of_entry entry, filled]

theorem Reading.mirrors {isOptional : Bool} {shape : Shape} {m? : Option Value} {v : Value}
    (reading : Reading p isOptional shape m? v) (genuine : ∀ m, m? = some m → p.Genuine m) :
    Mirrors p isOptional shape m? v := by
  induction reading with
  | missing => exact .missing
  | primitive converted =>
      refine .primitive ?_ ?_
      · rintro rfl
        cases converted
        rfl
      · rintro rfl
        obtain ⟨entries, made, rfl⟩ := map_ok.mp converted
        exact ⟨entries, made, rfl⟩
  | wrapper _ declared converted =>
      refine .wrapper declared ?_ ?_
      · rintro rfl
        obtain ⟨items, made, rfl⟩ := map_ok.mp converted
        exact ⟨items, made, rfl⟩
      · rintro rfl
        obtain ⟨entries, made, rfl⟩ := map_ok.mp converted
        exact ⟨entries, made, rfl⟩
  | member _ declared decoded =>
      obtain ⟨member, wire, rfl, -⟩ := decodeMember_ok declared (genuine _ rfl) decoded
      exact .member
  | object _ declared names missing readings ih =>
      refine .object declared names ?_ ?_
      · intro pair member
        exact (readings pair member).presence (genuine _ rfl) (missing pair member)
      · intro pair member
        refine ih pair member fun w found => ?_
        exact Value.all_entry (genuine _ rfl) (Value.entry?_eq_some.mp found)
  | @list _ item m items values hitems length _ ih =>
      refine .list hitems length fun pair member => ih pair member fun x equal => ?_
      cases equal
      exact p.isWellMade_lenient.all_items (genuine m rfl) hitems pair.1 (List.of_mem_zip member).1

end Protocol

end DevTools
