import DevTools.Proofs.Value.Keys

/-!
# Equality as an equivalence

Genuine values that agree, agree with the same values, at every depth. The step that takes an argument is
dictionaries: equality only asks whether each entry of the first has a match in the second, but as many
entries with keys that differ leave none of the second without one. On values without NaN agreement is
equality, which is therefore reflexive, symmetric and transitive there.
-/

namespace DevTools

/-! ## Dictionaries -/

/-- If each has a partner among as many others, and no two share one, each of the others has a partner. -/
theorem exists_partner {α β : Type} {related : α → β → Prop} {as : List α} {bs : List β}
    (length : as.length = bs.length) (partner : ∀ a ∈ as, ∃ b ∈ bs, related a b)
    (alone : as.Pairwise fun a a' => ∀ b ∈ bs, related a b → ¬ related a' b) :
    ∀ b ∈ bs, ∃ a ∈ as, related a b := by
  induction as generalizing bs with
  | nil =>
      rw [List.length_eq_zero_iff.mp length.symm]
      simp
  | cons a rest ih =>
      obtain ⟨apart, alone⟩ := List.pairwise_cons.mp alone
      obtain ⟨b, member, here⟩ := partner a List.mem_cons_self
      obtain ⟨before, after, rfl⟩ := List.append_of_mem member
      have others : ∀ a' ∈ rest, ∃ b' ∈ before ++ after, related a' b' := by
        intro a' inside
        obtain ⟨b', member', there⟩ := partner a' (List.mem_cons_of_mem _ inside)
        have differs : b' ≠ b := by
          rintro rfl
          exact apart a' inside b' member here there
        exact ⟨b', by simpa [differs] using member', there⟩
      have within : ∀ c ∈ before ++ after, c ∈ before ++ b :: after := by
        intro c inside
        rcases List.mem_append.mp inside with early | late
        · exact List.mem_append_left _ early
        · exact List.mem_append_right _ (List.mem_cons_of_mem _ late)
      have shorter : rest.length = (before ++ after).length := by
        simp only [List.length_cons, List.length_append] at length ⊢
        omega
      have onto := ih shorter others (alone.imp fun apart c inside => apart c (within c inside))
      intro c inside
      rcases List.mem_append.mp inside with early | late
      · obtain ⟨a', member', there⟩ := onto c (List.mem_append_left _ early)
        exact ⟨a', List.mem_cons_of_mem _ member', there⟩
      · rcases List.mem_cons.mp late with rfl | late
        · exact ⟨a, List.mem_cons_self, here⟩
        · obtain ⟨a', member', there⟩ := onto c (List.mem_append_right _ late)
          exact ⟨a', List.mem_cons_of_mem _ member', there⟩

def Protocol.Keyed (p : Protocol) (entries : List (Value × Value)) : Prop :=
  (∀ entry ∈ entries, p.IsKey entry.1) ∧ entries.Pairwise fun a b => a.1.agrees b.1 = false

theorem Protocol.Genuine.core {p : Protocol} {v : Value} (genuine : p.Genuine v) : p.Genuine v.core :=
  Value.all_core genuine

theorem Protocol.Genuine.entry {p : Protocol} {entries : List (Value × Value)} {entry : Value × Value}
    (genuine : p.Genuine (.dict entries)) (member : entry ∈ entries) :
    p.Genuine entry.1 ∧ p.Genuine entry.2 :=
  ⟨genuine.part (Value.mem_parts_dict.mpr ⟨entry, member, .inl rfl⟩),
    genuine.part (Value.mem_parts_dict.mpr ⟨entry, member, .inr rfl⟩)⟩

theorem Protocol.Genuine.keyed {p : Protocol} {entries : List (Value × Value)}
    (genuine : p.Genuine (.dict entries)) : p.Keyed entries :=
  ⟨fun _ member => ⟨(genuine.entry member).1, genuine.properKeys.1 _ member⟩, genuine.properKeys.2⟩

namespace Value

def Matches (entry other : Value × Value) : Prop :=
  entry.1.agrees other.1 = true ∧ entry.2.agrees other.2 = true

variable {p : Protocol} {entries others : List (Value × Value)}

theorem find?_of_agrees {key : Value} {entry : Value × Value} (keyed : p.Keyed entries)
    (isKey : p.IsKey key) (member : entry ∈ entries) (same : key.agrees entry.1 = true) :
    entries.find? (fun e => key.agrees e.1) = some entry := by
  obtain ⟨keys, distinct⟩ := keyed
  induction entries with
  | nil => cases member
  | cons head rest ih =>
      obtain ⟨first, distinct⟩ := List.pairwise_cons.mp distinct
      obtain ⟨headKey, keys⟩ := List.forall_mem_cons.mp keys
      rcases List.mem_cons.mp member with rfl | inside
      · rw [List.find?_cons, same]
      · have differs : key.agrees head.1 = false := by
          rw [agrees_congr isKey (keys entry inside) headKey same,
            agrees_comm (keys entry inside).1 headKey.1 (keys entry inside).2 headKey.2]
          exact first entry inside
        rw [List.find?_cons_of_neg (by simp [differs])]
        exact ih inside keys distinct

theorem equalEntries_iff (keys : ∀ e ∈ entries, p.IsKey e.1) (keyed : p.Keyed others) :
    equalEntries entries others = true ↔ ∀ e ∈ entries, ∃ o ∈ others, Matches e o := by
  induction entries with
  | nil => simp [equalEntries]
  | cons e rest ih =>
      obtain ⟨isKey, keys⟩ := List.forall_mem_cons.mp keys
      rw [List.forall_mem_cons, ← ih keys, equalEntries, Bool.and_eq_true]
      refine and_congr_left fun _ => ?_
      constructor
      · intro found
        cases located : others.find? fun entry => isSameNaN e.1 entry.1 || equals e.1 entry.1 with
        | none => simp [located] at found
        | some o =>
            rw [located] at found
            have sameKey := List.find?_some located
            exact ⟨o, List.mem_of_find?_eq_some located, sameKey, found⟩
      · rintro ⟨o, member, sameKey, sameValue⟩
        have located := find?_of_agrees keyed isKey member sameKey
        simp only [agrees] at located sameValue
        rw [located]
        exact sameValue

theorem exists_matches (left : p.Keyed entries) (right : p.Keyed others)
    (length : entries.length = others.length) (matched : ∀ e ∈ entries, ∃ o ∈ others, Matches e o) :
    ∀ o ∈ others, ∃ e ∈ entries, Matches e o := by
  refine exists_partner length matched ?_
  refine List.Pairwise.imp_of_mem (fun {e e'} member member' differ o inside here there => ?_) left.2
  rw [agrees_of_agrees (left.1 e member) (left.1 e' member') (right.1 o inside) here.1 there.1] at differ
  cases differ

/-! ## Values that agree -/

theorem agrees_eq_equals {v : Value} (number : v.nanMark? = none) (w : Value) : agrees v w = equals v w := by
  simp only [agrees, isSameNaN, number, Bool.false_or]

theorem agrees_list (items : List Value) (v : Value) : agrees (list items) v =
    match v.core with
    | list others => equalItems items others
    | _ => false := by
  rw [agrees_eq_equals rfl]
  cases core : v.core <;> simp only [equals, core]

theorem agrees_dict (entries : List (Value × Value)) (v : Value) : agrees (dict entries) v =
    match v.core with
    | dict others => entries.length == others.length && equalEntries entries others
    | _ => false := by
  rw [agrees_eq_equals rfl]
  cases core : v.core <;> simp only [equals, core]

theorem equals_tuple (items : List Value) (v : Value) : equals (tuple items) v =
    match v with
    | tuple others => equalItems items others
    | _ => false := by
  cases v <;> simp only [equals]

theorem equalFields_eq (fields others : List (String × Value)) :
    equalFields fields others = equalItems (fields.map (·.2)) (others.map (·.2)) := by
  induction fields generalizing others with
  | nil => cases others <;> rfl
  | cons field rest ih =>
      cases others with
      | nil => rfl
      | cons other others => simp only [equalFields, List.map_cons, equalItems, ih]

theorem equals_object (type : TypeName) (fields : List (String × Value)) (id : Option Nat) (v : Value) :
    equals (object type fields id) v =
      match v with
      | object type' others _ => type == type' && equalItems (fields.map (·.2)) (others.map (·.2))
      | _ => false := by
  cases v <;> simp only [equals, equalFields_eq]

theorem core_ne_wrapped {v : Value} (genuine : p.Genuine v) (type : TypeName) (base : Value) :
    v.core ≠ wrapped type base := by
  cases v with
  | wrapped type' inner =>
      obtain ⟨b, admitted⟩ := genuine.wrapped
      rintro (rfl : inner = _)
      cases b <;> cases admitted
  | _ => simp [core]

theorem isPlain_of_agrees {a b : Value} (plain : a.isPlain = true) (genuine : p.Genuine b)
    (same : agrees a b = true) : b.core.isPlain = true := by
  rw [agrees_core_right genuine] at same
  have unwrapped := core_ne_wrapped genuine
  generalize b.core = v at same unwrapped
  cases v with
  | wrapped type base => exact absurd rfl (unwrapped type base)
  | list _ | tuple _ | dict _ | object _ _ _ =>
      cases a <;> simp_all [isPlain, agrees, isSameNaN, nanMark?, equals, core, isNull, sameAmount, amount?]
  | _ => rfl

theorem equalEntries_congr {last : List (Value × Value)} (first : p.Keyed entries) (second : p.Keyed others)
    (third : p.Keyed last) (length : entries.length = others.length)
    (congr : ∀ e ∈ entries, ∀ o ∈ others, ∀ l ∈ last, Matches e o → (Matches e l ↔ Matches o l))
    (same : equalEntries entries others = true) : equalEntries entries last = equalEntries others last := by
  have forth := (equalEntries_iff first.1 second).mp same
  have back := exists_matches first second length forth
  rw [Bool.eq_iff_iff, equalEntries_iff first.1 third, equalEntries_iff second.1 third]
  constructor
  · intro found o inside
    obtain ⟨e, member, pair⟩ := back o inside
    obtain ⟨l, later, matched⟩ := found e member
    exact ⟨l, later, (congr e member o inside l later pair).mp matched⟩
  · intro found e member
    obtain ⟨o, inside, pair⟩ := forth e member
    obtain ⟨l, later, matched⟩ := found o inside
    exact ⟨l, later, (congr e member o inside l later pair).mpr matched⟩

variable (p) in
/-- Whatever the value agrees with, agrees with the same values. -/
def Congruent (a : Value) : Prop :=
  ∀ b c, p.Genuine b → p.Genuine c → agrees a b = true → agrees a c = agrees b c

theorem congruent_of_isPlain {a : Value} (plain : a.isPlain = true) : Congruent p a := by
  intro b c right _ same
  have plain' := isPlain_of_agrees plain right same
  rw [agrees_core_right right] at same
  rw [agrees_core_left right]
  exact agrees_congr_of_isPlain plain plain' same c

theorem congruent_list {items : List Value} (parts : ∀ x ∈ items, Congruent p x) :
    Congruent p (list items) := by
  intro b c right other same
  rw [agrees_list] at same
  split at same
  · rename_i others core
    have inner : p.Genuine (list others) := core ▸ right.core
    rw [agrees_core_left right, core, agrees_list, agrees_list]
    split
    · rename_i last core'
      have inner' : p.Genuine (list last) := core' ▸ other.core
      exact equalItems_congr (fun x hx y hy z hz => parts x hx y z (inner.part hy) (inner'.part hz)) same
    · rfl
  · cases same

theorem congruent_tuple {items : List Value} (parts : ∀ x ∈ items, Congruent p x) :
    Congruent p (tuple items) := by
  intro b c right other same
  rw [agrees_tuple, equals_tuple] at same
  split at same
  · rename_i others
    rw [agrees_tuple, agrees_tuple, equals_tuple, equals_tuple]
    split
    · rename_i last
      exact equalItems_congr (fun x hx y hy z hz => parts x hx y z (right.part hy) (other.part hz)) same
    · rfl
  · cases same

theorem congruent_object {type : TypeName} {fields : List (String × Value)} {id : Option Nat}
    (parts : ∀ x ∈ fields.map (·.2), Congruent p x) : Congruent p (object type fields id) := by
  intro b c right other same
  rw [agrees_eq_equals rfl, equals_object] at same
  split at same
  · rename_i type' others id'
    obtain ⟨sameType, same⟩ := Bool.and_eq_true_iff.mp same
    rw [agrees_eq_equals rfl, agrees_eq_equals rfl, equals_object, equals_object, eq_of_beq sameType]
    split
    · rename_i type'' last id''
      refine congrArg _ (equalItems_congr (fun x hx y hy z hz => ?_) same)
      exact parts x hx y z (right.part hy) (other.part hz)
    · rfl
  · cases same

theorem congruent_dict (genuine : p.Genuine (dict entries))
    (parts : ∀ x ∈ (dict entries).parts, Congruent p x) : Congruent p (dict entries) := by
  intro b c right other same
  rw [agrees_dict] at same
  split at same
  · rename_i others core
    have inner : p.Genuine (dict others) := core ▸ right.core
    obtain ⟨length, same⟩ := Bool.and_eq_true_iff.mp same
    rw [agrees_core_left right, core, agrees_dict, agrees_dict]
    split
    · rename_i last core'
      have inner' : p.Genuine (dict last) := core' ▸ other.core
      rw [eq_of_beq length]
      refine congrArg _ (equalEntries_congr genuine.keyed inner.keyed inner'.keyed (eq_of_beq length) ?_ same)
      intro e he o ho l hl pair
      have key := parts e.1 (mem_parts_dict.mpr ⟨e, he, .inl rfl⟩) o.1 l.1 (inner.entry ho).1
        (inner'.entry hl).1 pair.1
      have value := parts e.2 (mem_parts_dict.mpr ⟨e, he, .inr rfl⟩) o.2 l.2 (inner.entry ho).2
        (inner'.entry hl).2 pair.2
      rw [Matches, Matches, key, value]
    · rfl
  · cases same

theorem congruent_of_genuine {a : Value} (genuine : p.Genuine a) : Congruent p a := by
  induction a using partsInduction with
  | step a ih =>
      have parts : ∀ x ∈ a.parts, Congruent p x := fun x member => ih x member (genuine.part member)
      cases a with
      | wrapped type base =>
          obtain ⟨b', admitted⟩ := genuine.wrapped
          intro b c right other same
          rw [agrees_wrapped_left admitted] at same ⊢
          exact parts base (List.mem_singleton.mpr rfl) b c right other same
      | list items => exact congruent_list parts
      | tuple items => exact congruent_tuple parts
      | dict entries => exact congruent_dict genuine parts
      | object type fields id => exact congruent_object parts
      | _ => exact congruent_of_isPlain rfl

/-! ## Values without NaN -/

def isNotNaN : Value → Bool
  | float (.nan _) => false
  | _ => true

def isNaNFree (v : Value) : Bool :=
  v.all isNotNaN

theorem nanMark?_of_isNotNaN {v : Value} (number : v.core.isNotNaN = true) : v.nanMark? = none := by
  unfold nanMark?
  split
  · rename_i core
    rw [core] at number
    cases number
  · rfl

theorem agrees_of_isNaNFree {v : Value} (free : v.isNaNFree = true) (w : Value) :
    agrees v w = equals v w :=
  agrees_eq_equals (nanMark?_of_isNotNaN (all_iff.mp (all_core free)).1) w

section

variable {a b c : Value} (left : p.Genuine a) (freeLeft : a.isNaNFree = true)
include left freeLeft

theorem equals_self_of_isNaNFree : equals a a = true := by
  rw [← agrees_of_isNaNFree freeLeft]
  refine agrees_self left (all_mono (fun v number => ?_) a freeLeft)
  cases v with
  | float x =>
      cases x with
      | nan mark => cases number
      | _ => rfl
  | _ => rfl

variable (right : p.Genuine b) (freeRight : b.isNaNFree = true)
include right freeRight

theorem equals_symm_of_isNaNFree (same : equals a b = true) : equals b a = true := by
  have self := equals_self_of_isNaNFree left freeLeft
  rw [← agrees_of_isNaNFree freeLeft] at same self
  rw [← agrees_of_isNaNFree freeRight, ← congruent_of_genuine left b a right left same]
  exact self

theorem equals_trans_of_isNaNFree (other : p.Genuine c) (first : equals a b = true)
    (second : equals b c = true) : equals a c = true := by
  rw [← agrees_of_isNaNFree freeLeft] at first ⊢
  rw [← agrees_of_isNaNFree freeRight] at second
  rw [congruent_of_genuine left b c right other first]
  exact second

end

end Value

end DevTools
