import DevTools.Schema
import DevTools.Proofs.Value.Parts

namespace DevTools

/-! ## Kinds of values -/

def Primitive.admits : Primitive → Value → Bool
  | .text, .text _ => true
  | .integer, .int _ => true
  | .number, .float _ => true
  | .boolean, .bool _ => true
  | .dict, .dict _ => true
  | .any, _ => true
  | _, _ => false

def Base.admits : Base → Value → Bool
  | .text, .text _ => true
  | .integer, .int _ => true
  | .number, .float _ => true
  | .list, .list _ => true
  | .dict, .dict _ => true
  | _, _ => false

/-! ## Genuineness -/

def canonicalMember? (members : List (String × String)) (wire : String) : Option (String × String) :=
  members.find? fun m => wire == m.2

namespace Protocol

variable (p : Protocol)

def isWellMade : Value → Bool
  | .dict entries => decide (Value.ProperKeys entries)
  | .wrapped type base =>
    match p.declaration? type with
    | some (.wrapper _ b) => b.admits base
    | _ => false
  | .member type name wire =>
    match p.declaration? type with
    | some (.enumeration _ members) => canonicalMember? members wire == some (name, wire)
    | _ => false
  | _ => true

/-- The value can occur in a run. -/
def Genuine (v : Value) : Prop :=
  v.all p.isWellMade = true

instance (v : Value) : Decidable (p.Genuine v) :=
  inferInstanceAs (Decidable (_ = true))

theorem isWellMade_lenient : Value.Lenient p.isWellMade where
  bool _ := rfl
  int _ := rfl
  text _ := rfl
  list _ := rfl
  dict _ proper := decide_eq_true proper

variable {p}

theorem Genuine.part {v w : Value} (genuine : p.Genuine v) (member : w ∈ v.parts) : p.Genuine w :=
  (Value.all_iff.mp genuine).2 w member

theorem Genuine.properKeys {entries : List (Value × Value)} (genuine : p.Genuine (.dict entries)) :
    Value.ProperKeys entries :=
  of_decide_eq_true (Value.all_iff.mp genuine).1

theorem Genuine.wrapped {type : TypeName} {base : Value} (genuine : p.Genuine (.wrapped type base)) :
    ∃ b : Base, b.admits base = true := by
  have here := (Value.all_iff.mp genuine).1
  simp only [isWellMade] at here
  split at here
  · exact ⟨_, here⟩
  · cases here

theorem Genuine.member {type : TypeName} {declared : String} {members : List (String × String)}
    {name wire : String} (found : p.declaration? type = some (.enumeration declared members))
    (genuine : p.Genuine (.member type name wire)) :
    canonicalMember? members wire = some (name, wire) := by
  have here := (Value.all_iff.mp genuine).1
  simpa [isWellMade, found] using here

end Protocol

/-! ## Equality -/

namespace Value

theorem agrees_text (a b : String) : (text a).agrees (text b) = (a == b) := by
  simp [agrees, isSameNaN, nanMark?, equals, core]

theorem isSameNaN_comm (a b : Value) : isSameNaN a b = isSameNaN b a := by
  unfold isSameNaN
  cases a.nanMark? <;> cases b.nanMark? <;> first | rfl | exact BEq.comm

theorem sameAmount_comm (a b : Value) : sameAmount a b = sameAmount b a := by
  unfold sameAmount
  cases a.amount? <;> cases b.amount? <;> first | rfl | exact BEq.comm

theorem equals_wrapped_right {b : Base} {type : TypeName} {base : Value}
    (admitted : b.admits base = true) (a : Value) : equals a (wrapped type base) = equals a base := by
  induction a using partsInduction with
  | step a ih =>
      cases a with
      | wrapped type' inner =>
          simp only [equals]
          exact ih inner (List.mem_singleton.mpr rfl)
      | _ => cases b <;> cases base <;> simp_all [equals, core, isNull, Base.admits]

theorem isSameNaN_wrapped {b : Base} {type : TypeName} {base : Value}
    (admitted : b.admits base = true) (a : Value) :
    isSameNaN a (wrapped type base) = isSameNaN a base := by
  have same : (wrapped type base).nanMark? = base.nanMark? := by
    cases b <;> cases base <;> simp_all [Base.admits, nanMark?, core]
  simp only [isSameNaN, same]

theorem agrees_wrapped_right {b : Base} {type : TypeName} {base : Value}
    (admitted : b.admits base = true) (a : Value) : agrees a (wrapped type base) = agrees a base := by
  simp only [agrees, equals_wrapped_right admitted, isSameNaN_wrapped admitted]

theorem agrees_wrapped_left {b : Base} {type : TypeName} {base : Value}
    (admitted : b.admits base = true) (a : Value) : agrees (wrapped type base) a = agrees base a := by
  simp only [agrees, equals, isSameNaN_comm _ a, isSameNaN_wrapped admitted]

theorem keysFault?_isNone {xs : List Value} (h : (keysFault? xs).isNone = true) :
    ∀ x ∈ xs, x.keyFault?.isNone = true := by
  induction xs with
  | nil => simp
  | cons x rest ih =>
      cases hx : x.keyFault? with
      | some fault => simp [keysFault?, hx] at h
      | none =>
          have others := ih (by simpa [keysFault?, hx] using h)
          simpa [hx] using others

theorem equalItems_comm {as bs : List Value}
    (comm : ∀ a ∈ as, ∀ b ∈ bs, equals a b = equals b a) : equalItems as bs = equalItems bs as := by
  induction as generalizing bs with
  | nil => cases bs <;> rfl
  | cons a rest ih =>
      cases bs with
      | nil => rfl
      | cons b others =>
          have head := comm a List.mem_cons_self b List.mem_cons_self
          have tail := ih fun x hx y hy =>
            comm x (List.mem_cons_of_mem _ hx) y (List.mem_cons_of_mem _ hy)
          simp only [equalItems, head, tail, isSameNaN_comm a b]

def isPlain : Value → Bool
  | wrapped _ _ => false
  | list _ => false
  | tuple _ => false
  | dict _ => false
  | object _ _ _ => false
  | _ => true

theorem equals_comm_of_isPlain {a b : Value} (left : a.isPlain = true) (right : b.isPlain = true) :
    equals a b = equals b a := by
  cases a <;> simp only [isPlain, Bool.false_eq_true] at left
  all_goals cases b <;> simp only [isPlain, Bool.false_eq_true] at right
  all_goals simp only [equals, core, isNull, sameAmount_comm]
  all_goals simp [sameAmount, amount?, BEq.comm]

variable {p : Protocol}

theorem isPlain_core {v : Value} (genuine : p.Genuine v) (key : v.keyFault?.isNone = true) :
    v.core.isPlain = true ∨ ∃ xs, v = tuple xs := by
  cases v with
  | tuple xs => exact .inr ⟨xs, rfl⟩
  | wrapped type base =>
      obtain ⟨b, admitted⟩ := genuine.wrapped
      refine .inl ?_
      cases base <;> first | rfl | (cases b <;> simp [Base.admits, keyFault?] at admitted key)
  | _ => simp_all [keyFault?, isPlain, core]

theorem equals_core_right {v : Value} (genuine : p.Genuine v) (a : Value) :
    equals a v = equals a v.core := by
  cases v with
  | wrapped type base =>
      obtain ⟨b, admitted⟩ := genuine.wrapped
      exact equals_wrapped_right admitted a
  | _ => rfl

theorem equals_core_left (v a : Value) : equals v a = equals v.core a := by
  cases v <;> simp only [core, equals]

theorem equals_tuple_isPlain {v : Value} (plain : v.isPlain = true) (xs : List Value) :
    equals (tuple xs) v = false ∧ equals v (tuple xs) = false := by
  cases v <;> simp_all [isPlain, equals, core, isNull, sameAmount, amount?]

theorem equals_comm {a b : Value} (left : p.Genuine a) (right : p.Genuine b)
    (leftKey : a.keyFault?.isNone = true) (rightKey : b.keyFault?.isNone = true) :
    equals a b = equals b a := by
  induction a using partsInduction generalizing b with
  | step a ih =>
      rcases isPlain_core left leftKey with plainLeft | ⟨xs, rfl⟩
      · rcases isPlain_core right rightKey with plainRight | ⟨ys, rfl⟩
        · rw [equals_core_left, equals_core_right right, equals_core_left b, equals_core_right left]
          exact equals_comm_of_isPlain plainLeft plainRight
        · rw [equals_core_left, equals_core_right left]
          have unequal := equals_tuple_isPlain plainLeft ys
          rw [unequal.1, unequal.2]
      · rcases isPlain_core right rightKey with plainRight | ⟨ys, rfl⟩
        · rw [equals_core_left b, equals_core_right right]
          have unequal := equals_tuple_isPlain plainRight xs
          rw [unequal.1, unequal.2]
        · simp only [equals]
          refine equalItems_comm fun x hx y hy => ih x hx (left.part hx) (right.part hy) ?_ ?_
          · exact keysFault?_isNone leftKey x hx
          · exact keysFault?_isNone rightKey y hy

theorem agrees_comm {a b : Value} (left : p.Genuine a) (right : p.Genuine b)
    (leftKey : a.keyFault?.isNone = true) (rightKey : b.keyFault?.isNone = true) :
    agrees a b = agrees b a := by
  simp only [agrees, isSameNaN_comm a b, equals_comm left right leftKey rightKey]

/-! ## A genuine value agrees with itself -/

def isMarked : Value → Bool
  | float (.nan none) => false
  | _ => true

theorem find?_agrees {entries : List (Value × Value)} {entry : Value × Value}
    (genuine : p.Genuine (dict entries)) (member : entry ∈ entries)
    (self : entry.1.agrees entry.1 = true) :
    entries.find? (fun e => entry.1.agrees e.1) = some entry := by
  obtain ⟨keys, distinct⟩ := genuine.properKeys
  have genuineKey : ∀ e ∈ entries, p.Genuine e.1 := fun e inside =>
    genuine.part (mem_parts_dict.mpr ⟨e, inside, .inl rfl⟩)
  clear genuine
  induction entries with
  | nil => cases member
  | cons head rest ih =>
      obtain ⟨first, others⟩ := List.pairwise_cons.mp distinct
      rcases List.mem_cons.mp member with rfl | inside
      · simp [self]
      · -- The head is an earlier key, so the later one does not agree with it either.
        have differs : entry.1.agrees head.1 = false := by
          rw [agrees_comm (genuineKey _ member) (genuineKey _ List.mem_cons_self) (keys _ member)
            (keys _ List.mem_cons_self)]
          exact first entry inside
        rw [List.find?_cons_of_neg (by simp [differs])]
        exact ih inside (fun e h => keys e (List.mem_cons_of_mem _ h)) others
          (fun e h => genuineKey e (List.mem_cons_of_mem _ h))

theorem equalEntries_of_agrees {entries others : List (Value × Value)}
    (found : ∀ e ∈ entries, others.find? (fun o => e.1.agrees o.1) = some e)
    (self : ∀ e ∈ entries, e.2.agrees e.2 = true) : equalEntries entries others = true := by
  induction entries with
  | nil => rfl
  | cons e rest ih =>
      have head := found e List.mem_cons_self
      have value := self e List.mem_cons_self
      simp only [agrees] at head value
      simp only [equalEntries, head, value, Bool.true_and]
      exact ih (fun e h => found e (List.mem_cons_of_mem _ h))
        (fun e h => self e (List.mem_cons_of_mem _ h))

theorem equalItems_self {items : List Value} (self : ∀ x ∈ items, x.agrees x = true) :
    equalItems items items = true := by
  induction items with
  | nil => rfl
  | cons x rest ih =>
      have head := self x List.mem_cons_self
      simp only [agrees] at head
      simp only [equalItems, head, Bool.true_and]
      exact ih fun y inside => self y (List.mem_cons_of_mem _ inside)

theorem equalFields_self {fields : List (String × Value)}
    (self : ∀ field ∈ fields, field.2.agrees field.2 = true) : equalFields fields fields = true := by
  induction fields with
  | nil => rfl
  | cons field rest ih =>
      have head := self field List.mem_cons_self
      simp only [agrees] at head
      simp only [equalFields, head, Bool.true_and]
      exact ih fun e inside => self e (List.mem_cons_of_mem _ inside)

theorem agrees_self {v : Value} (genuine : p.Genuine v) (marked : v.all isMarked = true) :
    v.agrees v = true := by
  induction v using partsInduction with
  | step v ih =>
      have part : ∀ w ∈ v.parts, w.agrees w = true := fun w member =>
        ih w member (genuine.part member) ((all_iff.mp marked).2 w member)
      cases v with
      | float x =>
          cases x with
          | nan mark =>
              cases mark with
              | none => cases marked
              | some m => simp [agrees, isSameNaN, nanMark?, core]
          | _ => simp [agrees, equals, sameAmount, amount?, Binary64.amount?, core]
      | list items =>
          have equal : equalItems items items = true := equalItems_self part
          simp [agrees, equals, core, equal]
      | tuple items =>
          have equal : equalItems items items = true := equalItems_self part
          simp [agrees, equals, equal]
      | dict entries =>
          have entryPart : ∀ e ∈ entries, e.1.agrees e.1 = true ∧ e.2.agrees e.2 = true := fun e inside =>
            ⟨part _ (mem_parts_dict.mpr ⟨e, inside, .inl rfl⟩),
              part _ (mem_parts_dict.mpr ⟨e, inside, .inr rfl⟩)⟩
          have equal := equalEntries_of_agrees
            (fun e inside => find?_agrees genuine inside (entryPart e inside).1)
            (fun e inside => (entryPart e inside).2)
          simp [agrees, equals, core, equal]
      | wrapped type base =>
          obtain ⟨b, admitted⟩ := genuine.wrapped
          rw [agrees_wrapped_left admitted, agrees_wrapped_right admitted]
          exact part base (List.mem_singleton.mpr rfl)
      | object type fields id =>
          have equal := equalFields_self fun field inside =>
            part field.2 (List.mem_map_of_mem inside)
          simp [agrees, equals, equal]
      | _ => simp [agrees, equals, core, isNull, sameAmount, amount?]

end Value

end DevTools
