import DevTools.Value.Conversion

namespace DevTools.Value

/-! ## Induction -/

def parts : Value → List Value
  | list items => items
  | tuple items => items
  | dict entries => entries.flatMap fun entry => [entry.1, entry.2]
  | wrapped _ base => [base]
  | object _ fields _ => fields.map (·.2)
  | _ => []

theorem mem_parts_dict {w : Value} {entries : List (Value × Value)} :
    w ∈ (dict entries).parts ↔ ∃ entry ∈ entries, w = entry.1 ∨ w = entry.2 := by
  simp [parts]

theorem forall_parts_dict_cons {motive : Value → Prop} {k v : Value} {rest : List (Value × Value)} :
    (∀ w ∈ (dict ((k, v) :: rest)).parts, motive w) ↔
      motive k ∧ motive v ∧ ∀ w ∈ (dict rest).parts, motive w := by
  simp [parts]

theorem sizeOf_lt_of_mem_parts {v w : Value} (member : w ∈ v.parts) : sizeOf w < sizeOf v := by
  cases v with
  | list items =>
      have := List.sizeOf_lt_of_mem (show w ∈ items from member)
      simp only [list.sizeOf_spec]
      omega
  | tuple items =>
      have := List.sizeOf_lt_of_mem (show w ∈ items from member)
      simp only [tuple.sizeOf_spec]
      omega
  | dict entries =>
      obtain ⟨⟨key, value⟩, inside, side⟩ := mem_parts_dict.mp member
      have := List.sizeOf_lt_of_mem inside
      simp only [Prod.mk.sizeOf_spec] at this
      simp only [dict.sizeOf_spec]
      rcases side with rfl | rfl <;> omega
  | wrapped type base =>
      obtain rfl := List.mem_singleton.mp member
      simp only [wrapped.sizeOf_spec]
      omega
  | object type fields id =>
      obtain ⟨⟨name, value⟩, inside, rfl⟩ := List.mem_map.mp member
      have := List.sizeOf_lt_of_mem inside
      simp only [Prod.mk.sizeOf_spec] at this
      simp only [object.sizeOf_spec]
      omega
  | _ => simp [parts] at member

@[elab_as_elim]
theorem sizeInduction {motive : Value → Prop}
    (step : ∀ v, (∀ w, sizeOf w < sizeOf v → motive w) → motive v) (v : Value) : motive v :=
  step v fun w _ => sizeInduction step w
termination_by sizeOf v

@[elab_as_elim]
theorem partsInduction {motive : Value → Prop}
    (step : ∀ v, (∀ w ∈ v.parts, motive w) → motive v) (v : Value) : motive v := by
  induction v using sizeInduction with
  | step v ih => exact step v fun w member => ih w (sizeOf_lt_of_mem_parts member)

theorem mem_of_lookup? {key : String} {entries : List (Value × Value)} {w : Value}
    (found : lookup? key entries = some w) : ∃ k, (k, w) ∈ entries ∧ k.isText key = true := by
  obtain ⟨entry, located, rfl⟩ := Option.map_eq_some_iff.mp found
  have agrees := List.find?_some located
  exact ⟨entry.1, List.mem_of_find?_eq_some located, agrees⟩

theorem entry_ok {v w : Value} {key : String} :
    v.entry key = .ok w ↔ ∃ entries, v.core = dict entries ∧ lookup? key entries = some w := by
  unfold entry
  constructor
  · intro h
    split at h
    · rename_i entries hcore
      split at h
      · rename_i value found
        cases h
        exact ⟨entries, hcore, found⟩
      · cases h
    · cases h
  · rintro ⟨entries, hcore, found⟩
    simp only [hcore, found]

theorem sizeOf_core_le (v : Value) : sizeOf v.core ≤ sizeOf v := by
  cases v with
  | wrapped type base =>
      simp only [core_wrapped, wrapped.sizeOf_spec]
      omega
  | _ => exact Nat.le_refl _

theorem sizeOf_lt_of_entry {v w : Value} {key : String} (h : v.entry key = .ok w) :
    sizeOf w < sizeOf v := by
  obtain ⟨entries, hcore, found⟩ := entry_ok.mp h
  obtain ⟨k, member, -⟩ := mem_of_lookup? found
  have inside : w ∈ v.core.parts := by
    rw [hcore]
    exact mem_parts_dict.mpr ⟨_, member, .inr rfl⟩
  exact Nat.lt_of_lt_of_le (sizeOf_lt_of_mem_parts inside) (sizeOf_core_le v)

theorem mem_items {v x : Value} {xs : List Value} (h : v.items = .ok xs) (member : x ∈ xs) :
    (∃ s, x = text s) ∨ x ∈ v.core.parts := by
  unfold items at h
  split at h
  · cases h
    obtain ⟨c, -, rfl⟩ := List.mem_map.mp member
    exact .inl ⟨_, rfl⟩
  · rename_i hcore
    cases h
    rw [hcore]
    exact .inr member
  · rename_i hcore
    cases h
    rw [hcore]
    exact .inr member
  · rename_i entries hcore
    cases h
    obtain ⟨e, inside, rfl⟩ := List.mem_map.mp member
    rw [hcore]
    exact .inr (mem_parts_dict.mpr ⟨e, inside, .inl rfl⟩)
  · cases h

def Reaches (v x : Value) : Prop :=
  ∃ key w, v.entry key = .ok w ∧ (x = w ∨ ∃ xs, w.items = .ok xs ∧ x ∈ xs)

@[elab_as_elim]
theorem entryInduction {motive : Value → Prop}
    (step : ∀ v, (∀ x, v.Reaches x → motive x) → motive v) (v : Value) : motive v := by
  -- A character is no smaller than its text, but a text has no entries.
  have texts : ∀ s, motive (text s) := by
    intro s
    refine step _ fun x reached => ?_
    obtain ⟨key, w, h, -⟩ := reached
    cases h
  induction v using sizeInduction with
  | step v ih =>
      refine step v fun x reached => ?_
      obtain ⟨key, w, h, rfl | ⟨xs, hitems, member⟩⟩ := reached
      · exact ih x (sizeOf_lt_of_entry h)
      · rcases mem_items hitems member with ⟨s, rfl⟩ | inside
        · exact texts s
        · have below := Nat.lt_of_lt_of_le (sizeOf_lt_of_mem_parts inside) (sizeOf_core_le w)
          exact ih x (Nat.lt_trans below (sizeOf_lt_of_entry h))

/-! ## Tests of a value with all its parts -/

variable {test : Value → Bool}

theorem allItems_iff {items : List Value} :
    allItems test items = true ↔ ∀ w ∈ items, w.all test = true := by
  induction items with
  | nil => simp [allItems]
  | cons v rest ih => simp [allItems, ih]

theorem allEntries_iff {entries : List (Value × Value)} :
    allEntries test entries = true ↔ ∀ w ∈ (dict entries).parts, w.all test = true := by
  induction entries with
  | nil => simp [allEntries, parts]
  | cons entry rest ih =>
      simp only [allEntries, Bool.and_eq_true, ih, forall_parts_dict_cons, and_assoc]

theorem allFields_iff {fields : List (String × Value)} :
    allFields test fields = true ↔ ∀ w ∈ fields.map (·.2), w.all test = true := by
  induction fields with
  | nil => simp [allFields]
  | cons field rest ih =>
      simp only [allFields, Bool.and_eq_true, ih, List.map_cons, List.forall_mem_cons]

theorem all_iff {v : Value} :
    v.all test = true ↔ test v = true ∧ ∀ w ∈ v.parts, w.all test = true := by
  cases v with
  | list items => simp only [all, Bool.and_eq_true, allItems_iff, parts]
  | tuple items => simp only [all, Bool.and_eq_true, allItems_iff, parts]
  | dict entries => simp only [all, Bool.and_eq_true, allEntries_iff]
  | wrapped type base => simp [all, parts]
  | object type fields id => simp only [all, Bool.and_eq_true, allFields_iff, parts]
  | _ => simp [all, parts]

theorem all_core {v : Value} (h : v.all test = true) : v.core.all test = true := by
  cases v with
  | wrapped type base => exact (all_iff.mp h).2 base (List.mem_singleton.mpr rfl)
  | _ => exact h

theorem all_entry {v w : Value} {key : String} (h : v.all test = true)
    (found : v.entry key = .ok w) : w.all test = true := by
  obtain ⟨entries, hcore, located⟩ := entry_ok.mp found
  obtain ⟨k, member, -⟩ := mem_of_lookup? located
  have whole := all_core h
  rw [hcore] at whole
  exact (all_iff.mp whole).2 w (mem_parts_dict.mpr ⟨_, member, .inr rfl⟩)

theorem all_mono {test' : Value → Bool} (implies : ∀ v, test v = true → test' v = true) (v : Value)
    (h : v.all test = true) : v.all test' = true := by
  induction v using partsInduction with
  | step v ih =>
      obtain ⟨here, below⟩ := all_iff.mp h
      exact all_iff.mpr ⟨implies v here, fun w member => ih w member (below w member)⟩

/-! ## Keys -/

def ProperKeys (entries : List (Value × Value)) : Prop :=
  (∀ entry ∈ entries, entry.1.keyFault?.isNone = true) ∧
    entries.Pairwise fun earlier later => earlier.1.agrees later.1 = false

instance (entries : List (Value × Value)) : Decidable (ProperKeys entries) :=
  inferInstanceAs (Decidable (_ ∧ _))

theorem mem_insert {key value : Value} {entries : List (Value × Value)} {entry : Value × Value}
    (member : entry ∈ insert key value entries) :
    (entry.1 = key ∨ entry.1 ∈ entries.map (·.1)) ∧
      (entry.2 = value ∨ entry.2 ∈ entries.map (·.2)) := by
  induction entries with
  | nil =>
      obtain rfl := List.mem_singleton.mp member
      exact ⟨.inl rfl, .inl rfl⟩
  | cons head rest ih =>
      unfold insert at member
      split at member
      · rcases List.mem_cons.mp member with rfl | inside
        · exact ⟨.inr List.mem_cons_self, .inl rfl⟩
        · exact ⟨.inr (List.mem_cons_of_mem _ (List.mem_map_of_mem inside)),
            .inr (List.mem_cons_of_mem _ (List.mem_map_of_mem inside))⟩
      · rcases List.mem_cons.mp member with rfl | inside
        · exact ⟨.inr List.mem_cons_self, .inr List.mem_cons_self⟩
        · obtain ⟨left, right⟩ := ih inside
          exact ⟨left.imp_right (List.mem_cons_of_mem _), right.imp_right (List.mem_cons_of_mem _)⟩

theorem ProperKeys.insert {key value : Value} {entries : List (Value × Value)}
    (proper : ProperKeys entries) (hashable : key.keyFault?.isNone = true) :
    ProperKeys (Value.insert key value entries) := by
  obtain ⟨keys, distinct⟩ := proper
  constructor
  · intro entry member
    rcases (mem_insert member).1 with equal | old
    · rw [equal]
      exact hashable
    · obtain ⟨e, inside, equal⟩ := List.mem_map.mp old
      rw [← equal]
      exact keys e inside
  · induction entries with
    | nil => exact List.pairwise_singleton _ _
    | cons head rest ih =>
        obtain ⟨first, others⟩ := List.pairwise_cons.mp distinct
        unfold Value.insert
        split
        · exact List.pairwise_cons.mpr ⟨first, others⟩
        · rename_i differs
          refine List.pairwise_cons.mpr
            ⟨?_, ih (fun e inside => keys e (List.mem_cons_of_mem _ inside)) others⟩
          intro entry member
          rcases (mem_insert member).1 with equal | old
          · rw [equal]
            exact Bool.eq_false_iff.mpr differs
          · obtain ⟨e, inside, equal⟩ := List.mem_map.mp old
            rw [← equal]
            exact first e inside

theorem insertPair_ok {index : Nat} {item : Value} {entries result : List (Value × Value)}
    (h : insertPair index item entries = .ok result) :
    ∃ key value, item.items = .ok [key, value] ∧ key.keyFault?.isNone = true ∧
      result = insert key value entries := by
  unfold insertPair at h
  split at h
  · cases h
  · rename_i key value hitems
    split at h
    · cases h
    · rename_i hashable
      cases h
      exact ⟨key, value, hitems, Option.isNone_iff_eq_none.mpr hashable, rfl⟩
  · cases h

theorem insertPairs_invariant (Inv : List (Value × Value) → Prop) {items : List Value}
    (step : ∀ item ∈ items, ∀ key value entries, item.items = .ok [key, value] →
      key.keyFault?.isNone = true → Inv entries → Inv (insert key value entries))
    {index : Nat} {entries result : List (Value × Value)} (start : Inv entries)
    (h : insertPairs index items entries = .ok result) : Inv result := by
  induction items generalizing index entries with
  | nil =>
      cases h
      exact start
  | cons item rest ih =>
      unfold insertPairs at h
      cases hpair : insertPair index item entries with
      | error fault => simp [hpair, bind, Except.bind] at h
      | ok next =>
          simp only [hpair, bind, Except.bind] at h
          obtain ⟨key, value, hitems, hashable, rfl⟩ := insertPair_ok hpair
          refine ih (fun x member => step x (List.mem_cons_of_mem _ member)) ?_ h
          exact step item List.mem_cons_self key value entries hitems hashable start

/-- A test that no text and no list fails, and no dictionary with proper keys. What is taken out of a
value is made of these and of parts of the value. -/
structure Lenient (test : Value → Bool) : Prop where
  bool : ∀ b, test (.bool b) = true
  int : ∀ n, test (.int n) = true
  text : ∀ s, test (.text s) = true
  list : ∀ items, test (.list items) = true
  dict : ∀ entries, ProperKeys entries → test (.dict entries) = true

theorem Lenient.all_items {v : Value} {xs : List Value} (lenient : Lenient test)
    (h : v.all test = true) (hitems : v.items = .ok xs) : ∀ x ∈ xs, x.all test = true := by
  intro x member
  rcases mem_items hitems member with ⟨s, rfl⟩ | inside
  · exact lenient.text s
  · exact (all_iff.mp (all_core h)).2 x inside

theorem Lenient.all_list {v : Value} {xs : List Value} (lenient : Lenient test)
    (h : v.all test = true) (hitems : v.items = .ok xs) : (Value.list xs).all test = true :=
  all_iff.mpr ⟨lenient.list xs, lenient.all_items h hitems⟩

theorem Lenient.all_insertPairs {items : List Value} {entries : List (Value × Value)}
    (lenient : Lenient test) (h : ∀ x ∈ items, x.all test = true)
    (made : insertPairs 0 items [] = .ok entries) : (Value.dict entries).all test = true := by
  have invariant : ProperKeys entries ∧ ∀ w ∈ (Value.dict entries).parts, w.all test = true := by
    refine insertPairs_invariant
      (fun es => ProperKeys es ∧ ∀ w ∈ (Value.dict es).parts, w.all test = true) ?_ ?_ made
    · intro item member key value entries hitems hashable ⟨proper, below⟩
      have pair := lenient.all_items (h item member) hitems
      refine ⟨proper.insert hashable, ?_⟩
      intro w inside
      obtain ⟨entry, inserted, side⟩ := mem_parts_dict.mp inside
      obtain ⟨hkey, hvalue⟩ := mem_insert inserted
      rcases side with rfl | rfl
      · rcases hkey with equal | old
        · rw [equal]
          exact pair key (by simp)
        · obtain ⟨e, located, equal⟩ := List.mem_map.mp old
          exact below _ (mem_parts_dict.mpr ⟨e, located, .inl equal.symm⟩)
      · rcases hvalue with equal | old
        · rw [equal]
          exact pair value (by simp)
        · obtain ⟨e, located, equal⟩ := List.mem_map.mp old
          exact below _ (mem_parts_dict.mpr ⟨e, located, .inr equal.symm⟩)
    · exact ⟨⟨by simp, List.Pairwise.nil⟩, by simp [parts]⟩
  exact all_iff.mpr ⟨lenient.dict entries invariant.1, invariant.2⟩

theorem Lenient.all_toEntries {v : Value} {entries : List (Value × Value)} (lenient : Lenient test)
    (h : v.all test = true) (made : v.toEntries = .ok entries) :
    (Value.dict entries).all test = true := by
  unfold toEntries at made
  split at made
  · rename_i hcore
    cases made
    rw [← hcore]
    exact all_core h
  · cases hitems : v.items with
    | error fault => simp [hitems, bind, Except.bind] at made
    | ok xs =>
        simp only [hitems, bind, Except.bind] at made
        exact lenient.all_insertPairs (lenient.all_items h hitems) made

end DevTools.Value
