import DevTools.Store
import DevTools.Proofs.Value.Unmarked

namespace DevTools.Store

structure Grows (s t : Store) : Prop where
  marks : s.marks ≤ t.marks
  objects : s.objects.size ≤ t.objects.size

theorem Grows.refl (s : Store) : s.Grows s :=
  ⟨Nat.le_refl _, Nat.le_refl _⟩

theorem Grows.trans {s t u : Store} (first : s.Grows t) (second : t.Grows u) : s.Grows u :=
  ⟨Nat.le_trans first.marks second.marks, Nat.le_trans first.objects second.objects⟩

def isKnown (s : Store) : Value → Bool
  | .float (.nan mark) => mark.any (· < s.marks)
  | .object _ _ id => id.any (· < s.objects.size)
  | _ => true

def Knows (s : Store) (v : Value) : Prop :=
  v.all s.isKnown = true

instance (s : Store) (v : Value) : Decidable (s.Knows v) :=
  inferInstanceAs (Decidable (_ = true))

theorem isKnown_lenient (s : Store) : Value.Lenient s.isKnown where
  bool _ := rfl
  int _ := rfl
  text _ := rfl
  list _ := rfl
  dict _ _ := rfl

theorem Knows.part {s : Store} {v w : Value} (known : s.Knows v) (member : w ∈ v.parts) :
    s.Knows w :=
  (Value.all_iff.mp known).2 w member

theorem Knows.mono {s t : Store} {v : Value} (grows : s.Grows t) (known : s.Knows v) :
    t.Knows v := by
  refine Value.all_mono ?_ v known
  intro w here
  cases w with
  | float x =>
      cases x with
      | nan mark =>
          cases mark with
          | none => cases here
          | some m =>
              have := grows.marks
              simp only [isKnown, Option.any_some, decide_eq_true_eq] at here ⊢
              omega
      | _ => rfl
  | object type fields id =>
      cases id with
      | none => cases here
      | some n =>
          have := grows.objects
          simp only [isKnown, Option.any_some, decide_eq_true_eq] at here ⊢
          omega
  | _ => rfl

/-! ## The equations of adoption -/

@[simp]
theorem adopt_list (items : List Value) (s : Store) :
    s.adopt (.list items) = (.list (s.adoptItems items).1, (s.adoptItems items).2) := rfl

@[simp]
theorem adopt_tuple (items : List Value) (s : Store) :
    s.adopt (.tuple items) = (.tuple (s.adoptItems items).1, (s.adoptItems items).2) := rfl

@[simp]
theorem adopt_dict (entries : List (Value × Value)) (s : Store) :
    s.adopt (.dict entries) = (.dict (s.adoptEntries entries).1, (s.adoptEntries entries).2) := rfl

@[simp]
theorem adopt_wrapped (type : TypeName) (base : Value) (s : Store) :
    s.adopt (.wrapped type base) = (.wrapped type (s.adopt base).1, (s.adopt base).2) := rfl

@[simp]
theorem adopt_object (type : TypeName) (fields : List (String × Value)) (s : Store) :
    s.adopt (.object type fields none) =
      (.object type (s.adoptFields fields).1 (some (s.adoptFields fields).2.objects.size),
        { (s.adoptFields fields).2 with
          objects := (s.adoptFields fields).2.objects.push ⟨(s.adoptFields fields).1, []⟩ }) := rfl

@[simp]
theorem adoptItems_cons (v : Value) (rest : List Value) (s : Store) :
    s.adoptItems (v :: rest) =
      ((s.adopt v).1 :: ((s.adopt v).2.adoptItems rest).1, ((s.adopt v).2.adoptItems rest).2) := rfl

@[simp]
theorem adoptEntries_cons (k v : Value) (rest : List (Value × Value)) (s : Store) :
    s.adoptEntries ((k, v) :: rest) =
      (((s.adopt k).1, ((s.adopt k).2.adopt v).1) ::
          (((s.adopt k).2.adopt v).2.adoptEntries rest).1,
        (((s.adopt k).2.adopt v).2.adoptEntries rest).2) := rfl

@[simp]
theorem adoptFields_cons (field : String × Value) (rest : List (String × Value)) (s : Store) :
    s.adoptFields (field :: rest) =
      ((field.1, (s.adopt field.2).1) :: ((s.adopt field.2).2.adoptFields rest).1,
        ((s.adopt field.2).2.adoptFields rest).2) := rfl

/-! ## Growth -/

section Invariant

variable {R : Store → Store → Prop} (refl : ∀ s, R s s) (trans : ∀ {s t u}, R s t → R t u → R s u)
include refl trans

theorem adoptItems_related {items : List Value} (part : ∀ v ∈ items, ∀ s : Store, R s (s.adopt v).2)
    (s : Store) : R s (s.adoptItems items).2 := by
  induction items generalizing s with
  | nil => exact refl s
  | cons v rest ih =>
      have head := part v List.mem_cons_self s
      exact trans head (ih (fun w member => part w (List.mem_cons_of_mem _ member)) _)

theorem adoptEntries_related {entries : List (Value × Value)}
    (part : ∀ v ∈ (Value.dict entries).parts, ∀ s : Store, R s (s.adopt v).2) (s : Store) :
    R s (s.adoptEntries entries).2 := by
  induction entries generalizing s with
  | nil => exact refl s
  | cons entry rest ih =>
      obtain ⟨k, v⟩ := entry
      obtain ⟨key, value, others⟩ := Value.forall_parts_dict_cons.mp part
      exact trans (trans (key s) (value _)) (ih others _)

theorem adoptFields_related {fields : List (String × Value)}
    (part : ∀ field ∈ fields, ∀ s : Store, R s (s.adopt field.2).2) (s : Store) :
    R s (s.adoptFields fields).2 := by
  induction fields generalizing s with
  | nil => exact refl s
  | cons field rest ih =>
      have head := part field List.mem_cons_self s
      exact trans head (ih (fun e member => part e (List.mem_cons_of_mem _ member)) _)

/-- Adopting a value comes down to marks and objects that are added one after the other. -/
theorem adopt_related (mark : ∀ s : Store, R s { s with marks := s.marks + 1 })
    (push : ∀ (s : Store) (object : Object), R s { s with objects := s.objects.push object })
    (v : Value) (s : Store) : R s (s.adopt v).2 := by
  induction v using Value.partsInduction generalizing s with
  | step v ih =>
      cases v with
      | float x =>
          cases x with
          | nan previous =>
              cases previous with
              | none => exact mark s
              | some m => exact refl s
          | _ => exact refl s
      | list items => exact adoptItems_related refl trans ih s
      | tuple items => exact adoptItems_related refl trans ih s
      | dict entries => exact adoptEntries_related refl trans ih s
      | wrapped type base => exact ih base (List.mem_singleton.mpr rfl) s
      | object type fields id =>
          cases id with
          | none =>
              have below := adoptFields_related refl trans
                (fun field member => ih field.2 (List.mem_map_of_mem member)) s
              exact trans below (push _ _)
          | some n => exact refl s
      | _ => exact refl s

end Invariant

theorem adoptFields_grows_object (s : Store) (type : TypeName) (fields : List (String × Value)) :
    (s.adoptFields fields).2.Grows (s.adopt (.object type fields none)).2 :=
  ⟨Nat.le_refl _, by simp⟩

theorem adopt_grows (v : Value) (s : Store) : s.Grows (s.adopt v).2 :=
  adopt_related .refl .trans (fun _ => ⟨Nat.le_succ _, Nat.le_refl _⟩)
    (fun _ _ => ⟨Nat.le_refl _, by simp⟩) v s

theorem objects_adopt {id : Nat} {object : Object} (v : Value) {s : Store}
    (held : s.objects[id]? = some object) : (s.adopt v).2.objects[id]? = some object := by
  refine adopt_related (R := fun s t => s.objects[id]? = some object → t.objects[id]? = some object)
    (fun _ held => held) (fun first second held => second (first held)) (fun _ held => held) ?_ v s held
  intro s added held
  obtain ⟨bound, -⟩ := Array.getElem?_eq_some_iff.mp held
  rw [Array.getElem?_push, if_neg (Nat.ne_of_lt bound), held]

/-! ## What the store knows -/

theorem adoptItems_of_knows {s : Store} {items : List Value}
    (part : ∀ v ∈ items, s.adopt v = (v, s)) : s.adoptItems items = (items, s) := by
  induction items with
  | nil => rfl
  | cons v rest ih =>
      have head := part v List.mem_cons_self
      have tail := ih fun w member => part w (List.mem_cons_of_mem _ member)
      simp only [adoptItems_cons, head, tail]

theorem adoptEntries_of_knows {s : Store} {entries : List (Value × Value)}
    (part : ∀ v ∈ (Value.dict entries).parts, s.adopt v = (v, s)) :
    s.adoptEntries entries = (entries, s) := by
  induction entries with
  | nil => rfl
  | cons entry rest ih =>
      obtain ⟨k, v⟩ := entry
      obtain ⟨key, value, others⟩ := Value.forall_parts_dict_cons.mp part
      simp only [adoptEntries_cons, key, value, ih others]

theorem adopt_of_knows {s : Store} {v : Value} (known : s.Knows v) : s.adopt v = (v, s) := by
  induction v using Value.partsInduction with
  | step v ih =>
      have part : ∀ w ∈ v.parts, s.adopt w = (w, s) := fun w member =>
        ih w member (known.part member)
      cases v with
      | float x =>
          cases x with
          | nan mark =>
              cases mark with
              | none => cases known
              | some m => rfl
          | _ => rfl
      | list items =>
          have fixed : s.adoptItems items = (items, s) := adoptItems_of_knows part
          simp only [adopt_list, fixed]
      | tuple items =>
          have fixed : s.adoptItems items = (items, s) := adoptItems_of_knows part
          simp only [adopt_tuple, fixed]
      | dict entries => simp only [adopt_dict, adoptEntries_of_knows part]
      | wrapped type base => simp only [adopt_wrapped, part base (List.mem_singleton.mpr rfl)]
      | object type fields id =>
          cases id with
          | none => cases known
          | some n => rfl
      | _ => rfl

/-! ## What stays the same -/

theorem unmarkedItems_adoptItems {items : List Value}
    (part : ∀ v ∈ items, ∀ s : Store, (s.adopt v).1.unmarked = v.unmarked) (s : Store) :
    Value.unmarkedItems (s.adoptItems items).1 = Value.unmarkedItems items := by
  induction items generalizing s with
  | nil => rfl
  | cons v rest ih =>
      have head := part v List.mem_cons_self s
      have tail := ih (fun w member => part w (List.mem_cons_of_mem _ member)) (s.adopt v).2
      simp only [adoptItems_cons, Value.unmarkedItems, head, tail]

theorem unmarkedEntries_adoptEntries {entries : List (Value × Value)}
    (part : ∀ v ∈ (Value.dict entries).parts, ∀ s : Store, (s.adopt v).1.unmarked = v.unmarked)
    (s : Store) :
    Value.unmarkedEntries (s.adoptEntries entries).1 = Value.unmarkedEntries entries := by
  induction entries generalizing s with
  | nil => rfl
  | cons entry rest ih =>
      obtain ⟨k, v⟩ := entry
      obtain ⟨key, value, others⟩ := Value.forall_parts_dict_cons.mp part
      simp only [adoptEntries_cons, Value.unmarkedEntries, key, value, ih others]

theorem unmarkedFields_adoptFields {fields : List (String × Value)}
    (part : ∀ field ∈ fields, ∀ s : Store, (s.adopt field.2).1.unmarked = field.2.unmarked)
    (s : Store) : Value.unmarkedFields (s.adoptFields fields).1 = Value.unmarkedFields fields := by
  induction fields generalizing s with
  | nil => rfl
  | cons field rest ih =>
      have head := part field List.mem_cons_self s
      have tail := ih (fun e member => part e (List.mem_cons_of_mem _ member)) (s.adopt field.2).2
      simp only [adoptFields_cons, Value.unmarkedFields, head, tail]

theorem unmarked_adopt (v : Value) (s : Store) : (s.adopt v).1.unmarked = v.unmarked := by
  induction v using Value.partsInduction generalizing s with
  | step v ih =>
      cases v with
      | float x =>
          cases x with
          | nan mark => cases mark <;> rfl
          | _ => rfl
      | list items => exact congrArg Value.list (unmarkedItems_adoptItems ih s)
      | tuple items => exact congrArg Value.tuple (unmarkedItems_adoptItems ih s)
      | dict entries => exact congrArg Value.dict (unmarkedEntries_adoptEntries ih s)
      | wrapped type base =>
          simp only [adopt_wrapped, Value.unmarked, ih base (List.mem_singleton.mpr rfl)]
      | object type fields id =>
          cases id with
          | none =>
              have below := unmarkedFields_adoptFields
                (fun field member => ih field.2 (List.mem_map_of_mem member)) s
              simp only [adopt_object, Value.unmarked, below]
          | some n => rfl
      | _ => rfl

/-! ## Sequences

What holds of each value, whenever it is adopted between two stores, holds of all of them once the
sequence is adopted. -/

theorem adoptItems_forall {s u t : Store} {items : List Value} {motive : Value → Prop}
    (each : ∀ v ∈ items, ∀ t : Store, s.Grows t → (t.adopt v).2.Grows u → motive (t.adopt v).1)
    (after : s.Grows t) (before : (t.adoptItems items).2.Grows u) :
    ∀ w ∈ (t.adoptItems items).1, motive w := by
  induction items generalizing t with
  | nil => simp [adoptItems]
  | cons v rest ih =>
      have later := adopt_grows v t
      have head := (adoptItems_related .refl .trans (fun w _ => adopt_grows w) (t.adopt v).2).trans before
      simp only [adoptItems_cons, List.forall_mem_cons]
      refine ⟨each v List.mem_cons_self t after head, ?_⟩
      exact ih (fun w member => each w (List.mem_cons_of_mem _ member)) (after.trans later) before

theorem adoptFields_names (values : List (String × Value)) (s : Store) :
    (s.adoptFields values).1.map (·.1) = values.map (·.1) := by
  induction values generalizing s with
  | nil => rfl
  | cons held rest ih => simp only [adoptFields_cons, List.map_cons, ih]

theorem adoptFields_forall {s u t : Store} {α : Type} {fields : List α}
    {values : List (String × Value)} (motive : α → Value → Prop)
    (each : ∀ pair ∈ fields.zip values, ∀ t : Store, s.Grows t → (t.adopt pair.2.2).2.Grows u →
      motive pair.1 (t.adopt pair.2.2).1)
    (after : s.Grows t) (before : (t.adoptFields values).2.Grows u) :
    ∀ pair ∈ fields.zip (t.adoptFields values).1, motive pair.1 pair.2.2 := by
  induction values generalizing fields t with
  | nil => simp [adoptFields]
  | cons held rest ih =>
      cases fields with
      | nil => simp
      | cons field others =>
          have later := adopt_grows held.2 t
          have head := (adoptFields_related .refl .trans (fun e _ => adopt_grows e.2)
            (t.adopt held.2).2).trans before
          simp only [List.zip_cons_cons, List.forall_mem_cons] at each
          simp only [adoptFields_cons, List.zip_cons_cons, List.forall_mem_cons]
          exact ⟨each.1 t after head, ih each.2 (after.trans later) before⟩

end DevTools.Store
