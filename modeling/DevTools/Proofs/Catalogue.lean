import DevTools.Catalogue
import DevTools.Codec.Decode

namespace DevTools

def Shape.item : Shape → Item
  | .one item => item
  | .many item => item

namespace Protocol

variable {p : Protocol}

variable (p) in
def isWritable (type : TypeName) : Bool :=
  match p.declaration? type with
  | some (.event _) => false
  | some _ => true
  | none => false

variable (p) in
def isWritableShape (shape : Shape) : Bool :=
  match shape.item with
  | .primitive _ => true
  | .reference ref => p.isWritable ref.target

variable (p) in
def records : List (TypeName × List Field) :=
  p.domains.flatMap fun d => d.types.filterMap fun declaration =>
    match declaration with
    | .record name fields => some (⟨d.scope, name⟩, fields)
    | _ => none

theorem mem_records {type : TypeName} {name : String} {fields : List Field}
    (declared : p.declaration? type = some (.record name fields)) : (type, fields) ∈ p.records := by
  obtain ⟨d, hd, found⟩ := Option.bind_eq_some_iff.mp declared
  have scope := List.find?_some hd
  unfold Domain.declaration? at found
  cases located : d.types.find? fun declaration => declaration.name == type.name with
  | none =>
      rw [located] at found
      obtain ⟨event, -, impossible⟩ := Option.map_eq_some_iff.mp found
      cases impossible
  | some declaration =>
      rw [located] at found
      cases found
      have named := List.find?_some located
      simp only [Declaration.name] at named
      refine List.mem_flatMap.mpr ⟨d, List.mem_of_find?_eq_some hd, ?_⟩
      refine List.mem_filterMap.mpr ⟨_, List.mem_of_find?_eq_some located, ?_⟩
      simp only [eq_of_beq scope, eq_of_beq named]

structure Regular (p : Protocol) (fields : List Field) : Prop where
  names : (fields.map (·.name)).Nodup
  keys : (fields.map (·.key)).Nodup
  ordered : fields.Pairwise fun a b => a.isOptional = true → b.isOptional = true
  writable : ∀ field ∈ fields, p.isWritableShape field.shape = true

variable (p) in
def IsRegular : Prop :=
  ∀ type name fields, p.declaration? type = some (.record name fields) → p.Regular fields

theorem pairwise_of_dropWhile {fields : List Field}
    (optional : (fields.dropWhile (!·.isOptional)).all (·.isOptional) = true) :
    fields.Pairwise fun a b => a.isOptional = true → b.isOptional = true := by
  induction fields with
  | nil => exact .nil
  | cons field rest ih =>
      cases isOptional : field.isOptional with
      | true =>
          simp only [List.dropWhile_cons, isOptional, Bool.not_true, Bool.false_eq_true, ↓reduceIte,
            List.all_cons, Bool.true_and, List.all_eq_true] at optional
          have later : ∀ f ∈ rest, f.isOptional = true := optional
          refine .cons (fun f member _ => later f member) ?_
          exact List.Pairwise.imp_of_mem (fun _ member _ _ => later _ member)
            (List.pairwise_of_forall (R := fun _ _ => True) fun _ _ => trivial)
      | false =>
          simp only [List.dropWhile_cons, isOptional, Bool.not_false, ↓reduceIte] at optional
          refine .cons (fun f _ required => ?_) (ih optional)
          simp [isOptional] at required

end Protocol

theorem record_fields_regular :
    (protocol.records.all fun r =>
      decide (r.2.map (·.name)).Nodup && decide (r.2.map (·.key)).Nodup &&
        (r.2.dropWhile (!·.isOptional)).all (·.isOptional) &&
        r.2.all fun f => protocol.isWritableShape f.shape) = true := by
  decide +kernel

theorem protocol_isRegular : protocol.IsRegular := by
  intro type name fields declared
  have facts := List.all_eq_true.mp record_fields_regular _ (Protocol.mem_records declared)
  simp only [Bool.and_eq_true, decide_eq_true_eq] at facts
  obtain ⟨⟨⟨names, keys⟩, ordered⟩, writable⟩ := facts
  exact ⟨names, keys, Protocol.pairwise_of_dropWhile ordered, List.all_eq_true.mp writable⟩

/-! ## References that do not resolve -/

def selfNamingFields : List (TypeName × String × Bool) :=
  [ (⟨"network", "ReportingApiReport"⟩, "timestamp", false),
    (⟨"network", "LoadNetworkResourcePageResult"⟩, "headers", true) ]

def isSelfNaming (type : TypeName) : Bool :=
  selfNamingFields.any (·.1 == type)

def Reference.isClear (ref : Reference) : Bool :=
  !ref.selfNamed && !isSelfNaming ref.target

def Shape.isClear (shape : Shape) : Bool :=
  match shape.item with
  | .primitive _ => true
  | .reference ref => ref.isClear

theorem Reference.selfNamed_of_isClear {ref : Reference} (clear : ref.isClear = true) :
    ref.selfNamed = false := by
  simp only [isClear, Bool.and_eq_true, Bool.not_eq_true'] at clear
  exact clear.1

theorem Shape.unresolved?_of_isClear {shape : Shape} (clear : shape.isClear = true) :
    shape.unresolved? = none := by
  cases shape with
  | many item => rfl
  | one item =>
      cases item with
      | primitive kind => rfl
      | reference ref =>
          simp [unresolved?, Reference.selfNamed_of_isClear clear]

theorem record_fields_clear :
    (protocol.records.all fun r =>
      (r.2.all fun f => f.shape.isClear ||
        f.shape.unresolved? == some "network" && f.key == f.name &&
          selfNamingFields.contains (r.1, f.name, f.isOptional)) &&
      (!isSelfNaming r.1 || r.2.any (·.shape.unresolved? == some "network"))) = true := by
  decide +kernel

theorem clear_or_unresolved {type : TypeName} {name : String} {fields : List Field} {field : Field}
    (declared : protocol.declaration? type = some (.record name fields)) (member : field ∈ fields) :
    field.shape.isClear = true ∨ (field.shape.unresolved? = some "network" ∧ field.key = field.name) ∧
      (type, field.name, field.isOptional) ∈ selfNamingFields := by
  have record := List.all_eq_true.mp record_fields_clear _ (Protocol.mem_records declared)
  simpa using List.all_eq_true.mp (Bool.and_eq_true_iff.mp record).1 field member

theorem isClear_of_reference {ref : Reference} {name : String} {fields : List Field} {field : Field}
    (clear : ref.isClear = true)
    (declared : protocol.declaration? ref.target = some (.record name fields))
    (member : field ∈ fields) : field.shape.isClear = true := by
  rcases clear_or_unresolved declared member with below | ⟨-, listed⟩
  · exact below
  · have selfNaming : isSelfNaming ref.target = true :=
      List.any_eq_true.mpr ⟨_, listed, beq_self_eq_true _⟩
    simp [Reference.isClear, selfNaming] at clear

theorem record_of_isSelfNaming {type : TypeName} (selfNaming : isSelfNaming type = true) :
    ∃ name fields, protocol.declaration? type = some (.record name fields) := by
  simp only [isSelfNaming, selfNamingFields, List.any_cons, List.any_nil, Bool.or_false,
    Bool.or_eq_true, beq_iff_eq] at selfNaming
  rcases selfNaming with rfl | rfl
  · exact ⟨_, _, rfl⟩
  · exact ⟨_, _, rfl⟩

theorem exists_unresolved {type : TypeName} {name : String} {fields : List Field}
    (declared : protocol.declaration? type = some (.record name fields))
    (selfNaming : isSelfNaming type = true) :
    ∃ field ∈ fields, field.shape.unresolved? = some "network" := by
  have record := List.all_eq_true.mp record_fields_clear _ (Protocol.mem_records declared)
  simpa [selfNaming] using (Bool.and_eq_true_iff.mp record).2

end DevTools
