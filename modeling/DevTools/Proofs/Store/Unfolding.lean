import DevTools.Proofs.Codec.Reading
import DevTools.Store
import Mathlib.Data.Finset.Card
import Mathlib.Data.Finset.Range

/-!
# Unfolding

`Shows` says what a value looks like when all objects in it are taken as the store has them, through any
number of objects inside each other. A value that shows as anything contains no object inside itself, so the
objects on the way down are all different, and there are no more of them than the store holds. That is why
reading a value goes deep enough (`Shows.read`).
-/

namespace DevTools

namespace Value

def isLeaf : Value → Bool
  | list _ | tuple _ | dict _ | wrapped _ _ | object _ _ _ => false
  | _ => true

inductive Occurs (id : Nat) : Value → Prop
  | here {type : TypeName} {fields : List (String × Value)} : Occurs id (object type fields (some id))
  | part {v w : Value} : w ∈ v.parts → Occurs id w → Occurs id v

theorem not_occurs_of_isLeaf {v : Value} {id : Nat} (leaf : v.isLeaf = true) : ¬ v.Occurs id := by
  intro occurs
  cases occurs with
  | here => cases leaf
  | part member =>
      cases v with
      | list items => cases leaf
      | tuple items => cases leaf
      | dict entries => cases leaf
      | wrapped type base => cases leaf
      | object type fields id => cases leaf
      | _ => cases member

def isNoObject : Value → Bool
  | object _ _ _ => false
  | _ => true

def isObjectless (v : Value) : Bool :=
  v.all isNoObject

end Value

/-! ## Lists in step -/

section Zip

variable {α β : Type} {R : α → β → Prop} {as : List α} {bs cs : List β}

theorem eq_of_zip (length : as.length = bs.length) (length' : as.length = cs.length)
    (same : ∀ pair ∈ as.zip bs, ∀ c, R pair.1 c → pair.2 = c) (each : ∀ pair ∈ as.zip cs, R pair.1 pair.2) :
    bs = cs := by
  induction as generalizing bs cs with
  | nil =>
      rw [List.length_eq_zero_iff.mp length.symm, List.length_eq_zero_iff.mp length'.symm]
  | cons a rest ih =>
      cases bs with
      | nil => cases length
      | cons b bs =>
          cases cs with
          | nil => cases length'
          | cons c cs =>
              simp only [List.zip_cons_cons, List.forall_mem_cons] at same each
              rw [same.1 c each.1, ih (Nat.succ.inj length) (Nat.succ.inj length') same.2 each.2]

theorem map_eq_of_zip {f : α → β} (length : as.length = bs.length)
    (each : ∀ pair ∈ as.zip bs, f pair.1 = pair.2) : as.map f = bs := by
  induction as generalizing bs with
  | nil => rw [List.length_eq_zero_iff.mp length.symm, List.map_nil]
  | cons a rest ih =>
      cases bs with
      | nil => cases length
      | cons b bs =>
          simp only [List.zip_cons_cons, List.forall_mem_cons] at each
          rw [List.map_cons, each.1, ih (Nat.succ.inj length) each.2]

theorem forall_zip_self {motive : α → α → Prop} (each : ∀ a ∈ as, motive a a) :
    ∀ pair ∈ as.zip as, motive pair.1 pair.2 := by
  induction as with
  | nil => simp
  | cons a rest ih =>
      obtain ⟨head, tail⟩ := List.forall_mem_cons.mp each
      exact List.forall_mem_cons.mpr ⟨head, ih tail⟩

end Zip

namespace Store

/-! ## The equations of reading -/

section Reading

variable (current : Nat → Option (List (String × Value)))

theorem graftItems_eq (items : List Value) : graftItems current items = items.map (graft current) := by
  induction items with
  | nil => rfl
  | cons v rest ih => rw [graftItems, ih, List.map_cons]

theorem graftEntries_eq (entries : List (Value × Value)) :
    graftEntries current entries = entries.map fun entry => (graft current entry.1, graft current entry.2) := by
  induction entries with
  | nil => rfl
  | cons entry rest ih => rw [graftEntries, ih, List.map_cons]

theorem graftFields_eq (fields : List (String × Value)) :
    graftFields current fields = fields.map fun field => (field.1, graft current field.2) := by
  induction fields with
  | nil => rfl
  | cons field rest ih => rw [graftFields, ih, List.map_cons]

variable (s : Store) (depth : Nat)

theorem readTo_leaf {v : Value} (leaf : v.isLeaf = true) : s.readTo depth v = v := by
  cases depth with
  | zero => rfl
  | succ depth =>
      cases v with
      | list items => cases leaf
      | tuple items => cases leaf
      | dict entries => cases leaf
      | wrapped type base => cases leaf
      | object type fields id => cases leaf
      | _ => rfl

theorem readTo_list (items : List Value) :
    s.readTo depth (.list items) = .list (items.map (s.readTo depth)) := by
  cases depth with
  | zero => exact congrArg Value.list (List.map_id items).symm
  | succ depth => exact congrArg Value.list (graftItems_eq _ items)

theorem readTo_tuple (items : List Value) :
    s.readTo depth (.tuple items) = .tuple (items.map (s.readTo depth)) := by
  cases depth with
  | zero => exact congrArg Value.tuple (List.map_id items).symm
  | succ depth => exact congrArg Value.tuple (graftItems_eq _ items)

theorem readTo_dict (entries : List (Value × Value)) :
    s.readTo depth (.dict entries) =
      .dict (entries.map fun entry => (s.readTo depth entry.1, s.readTo depth entry.2)) := by
  cases depth with
  | zero => exact congrArg Value.dict (List.map_id entries).symm
  | succ depth => exact congrArg Value.dict (graftEntries_eq _ entries)

theorem readTo_wrapped (type : TypeName) (base : Value) :
    s.readTo depth (.wrapped type base) = .wrapped type (s.readTo depth base) := by
  cases depth <;> rfl

theorem readTo_fresh (type : TypeName) (fields : List (String × Value)) :
    s.readTo depth (.object type fields none) =
      .object type (fields.map fun field => (field.1, s.readTo depth field.2)) none := by
  cases depth with
  | zero => exact congrArg (Value.object type · none) (List.map_id fields).symm
  | succ depth => exact congrArg (Value.object type · none) (graftFields_eq _ fields)

variable {s} in
theorem readTo_object {type : TypeName} {fields : List (String × Value)} {id : Nat} {object : Object}
    (found : s.objects[id]? = some object) :
    s.readTo (depth + 1) (.object type fields (some id)) =
      .object type (object.fields.map fun field => (field.1, s.readTo depth field.2)) (some id) := by
  simp only [readTo, graft, found, Option.map_some, Option.getD_some]

end Reading

/-! ## What a value shows as -/

/-- The second value is the first one with all objects as the store has them, at any depth. -/
inductive Shows (s : Store) : Value → Value → Prop
  | leaf {v : Value} : v.isLeaf = true → Shows s v v
  | list {items shown : List Value} : items.length = shown.length →
      (∀ pair ∈ items.zip shown, Shows s pair.1 pair.2) → Shows s (.list items) (.list shown)
  | tuple {items shown : List Value} : items.length = shown.length →
      (∀ pair ∈ items.zip shown, Shows s pair.1 pair.2) → Shows s (.tuple items) (.tuple shown)
  | dict {entries shown : List (Value × Value)} : entries.length = shown.length →
      (∀ pair ∈ entries.zip shown, Shows s pair.1.1 pair.2.1) →
      (∀ pair ∈ entries.zip shown, Shows s pair.1.2 pair.2.2) → Shows s (.dict entries) (.dict shown)
  | wrapped {type : TypeName} {base shown : Value} : Shows s base shown →
      Shows s (.wrapped type base) (.wrapped type shown)
  | fresh {type : TypeName} {fields shown : List (String × Value)} : fields.length = shown.length →
      (∀ pair ∈ fields.zip shown, pair.1.1 = pair.2.1) →
      (∀ pair ∈ fields.zip shown, Shows s pair.1.2 pair.2.2) →
      Shows s (.object type fields none) (.object type shown none)
  | object {type : TypeName} {fields shown : List (String × Value)} {id : Nat} {object : Object} :
      s.objects[id]? = some object → object.fields.length = shown.length →
      (∀ pair ∈ object.fields.zip shown, pair.1.1 = pair.2.1) →
      (∀ pair ∈ object.fields.zip shown, Shows s pair.1.2 pair.2.2) →
      Shows s (.object type fields (some id)) (.object type shown (some id))

structure ShowsFields (s : Store) (fields shown : List (String × Value)) : Prop where
  length : fields.length = shown.length
  names : ∀ pair ∈ fields.zip shown, pair.1.1 = pair.2.1
  values : ∀ pair ∈ fields.zip shown, s.Shows pair.1.2 pair.2.2

variable {s : Store}

theorem eq_of_shown {fields shown shown' : List (String × Value)} (length : fields.length = shown.length)
    (names : ∀ pair ∈ fields.zip shown, pair.1.1 = pair.2.1)
    (same : ∀ pair ∈ fields.zip shown, ∀ w, s.Shows pair.1.2 w → pair.2.2 = w)
    (shows : s.ShowsFields fields shown') : shown = shown' := by
  refine eq_of_zip (R := fun a b => a.1 = b.1 ∧ s.Shows a.2 b.2) length shows.length ?_
    fun pair member => ⟨shows.names pair member, shows.values pair member⟩
  rintro pair member ⟨name, w⟩ ⟨named, shown⟩
  exact Prod.ext ((names pair member).symm.trans named) (same pair member w shown)

theorem Shows.unique {v w w' : Value} (shows : s.Shows v w) (shows' : s.Shows v w') : w = w' := by
  induction shows generalizing w' with
  | leaf leaf =>
      cases shows' with
      | leaf => rfl
      | _ => cases leaf
  | list length _ ih =>
      cases shows' with
      | leaf leaf => cases leaf
      | list length' each => rw [eq_of_zip length length' (fun pair member _ => ih pair member) each]
  | tuple length _ ih =>
      cases shows' with
      | leaf leaf => cases leaf
      | tuple length' each => rw [eq_of_zip length length' (fun pair member _ => ih pair member) each]
  | dict length _ _ keys values =>
      cases shows' with
      | leaf leaf => cases leaf
      | dict length' keys' values' =>
          rw [eq_of_zip (R := fun a b => s.Shows a.1 b.1 ∧ s.Shows a.2 b.2) length length' ?_
            fun pair member => ⟨keys' pair member, values' pair member⟩]
          rintro pair member ⟨key, value⟩ ⟨shownKey, shownValue⟩
          exact Prod.ext (keys pair member shownKey) (values pair member shownValue)
  | wrapped _ ih =>
      cases shows' with
      | leaf leaf => cases leaf
      | wrapped shown => rw [ih shown]
  | fresh length names _ ih =>
      cases shows' with
      | leaf leaf => cases leaf
      | fresh length' names' values' =>
          rw [eq_of_shown length names (fun pair member _ => ih pair member) ⟨length', names', values'⟩]
  | object found length names _ ih =>
      cases shows' with
      | leaf leaf => cases leaf
      | object found' length' names' values' =>
          cases found.symm.trans found'
          rw [eq_of_shown length names (fun pair member _ => ih pair member) ⟨length', names', values'⟩]

/-! ## No object inside itself -/

/-- The store has fields for the object that show as something smaller than the value. -/
def ShownWithin (s : Store) (id : Nat) (w : Value) : Prop :=
  ∃ object shown, s.objects[id]? = some object ∧ s.ShowsFields object.fields shown ∧
    sizeOf shown < sizeOf w

theorem ShownWithin.part {id : Nat} {w x : Value} (member : x ∈ w.parts) (within : s.ShownWithin id x) :
    s.ShownWithin id w := by
  obtain ⟨object, shown, found, fields, less⟩ := within
  exact ⟨object, shown, found, fields, Nat.lt_trans less (Value.sizeOf_lt_of_mem_parts member)⟩

theorem Shows.of_occurs {v w : Value} {id : Nat} (shows : s.Shows v w) (occurs : w.Occurs id) :
    s.ShownWithin id w := by
  induction shows with
  | leaf leaf => exact absurd occurs (Value.not_occurs_of_isLeaf leaf)
  | list length _ ih =>
      obtain - | ⟨member, inside⟩ := occurs
      obtain ⟨item, paired⟩ := exists_mem_zip_right length member
      exact (ih _ paired inside).part member
  | tuple length _ ih =>
      obtain - | ⟨member, inside⟩ := occurs
      obtain ⟨item, paired⟩ := exists_mem_zip_right length member
      exact (ih _ paired inside).part member
  | dict length _ _ keys values =>
      obtain - | ⟨member, inside⟩ := occurs
      obtain ⟨entry, listed, side⟩ := Value.mem_parts_dict.mp member
      obtain ⟨held, paired⟩ := exists_mem_zip_right length listed
      rcases side with rfl | rfl
      · exact (keys _ paired inside).part member
      · exact (values _ paired inside).part member
  | wrapped _ ih =>
      obtain - | ⟨member, inside⟩ := occurs
      obtain rfl := List.mem_singleton.mp member
      exact (ih inside).part member
  | fresh length _ _ ih =>
      obtain - | ⟨member, inside⟩ := occurs
      obtain ⟨field, listed, rfl⟩ := List.mem_map.mp member
      obtain ⟨held, paired⟩ := exists_mem_zip_right length listed
      exact (ih _ paired inside).part member
  | object found length names values ih =>
      cases occurs with
      | here =>
          refine ⟨_, _, found, ⟨length, names, values⟩, ?_⟩
          simp only [Value.object.sizeOf_spec]
          omega
      | part member inside =>
          obtain ⟨field, listed, rfl⟩ := List.mem_map.mp member
          obtain ⟨held, paired⟩ := exists_mem_zip_right length listed
          exact (ih _ paired inside).part member

theorem ShowsFields.not_occurs {id : Nat} {object : Object} {shown : List (String × Value)}
    (found : s.objects[id]? = some object) (shows : s.ShowsFields object.fields shown) :
    ∀ field ∈ shown, ¬ field.2.Occurs id := by
  intro field member occurs
  obtain ⟨held, paired⟩ := exists_mem_zip_right shows.length member
  obtain ⟨object', shown', found', shows', less⟩ := (shows.values _ paired).of_occurs occurs
  cases found.symm.trans found'
  -- The object would be shown inside itself with the same fields again.
  have same : shown = shown' := eq_of_shown shows.length shows.names
    (fun pair member w => (shows.values pair member).unique) shows'
  have smaller := List.sizeOf_lt_of_mem member
  rw [show field = (field.1, field.2) from rfl, Prod.mk.sizeOf_spec] at smaller
  rw [← same] at less
  simp only at less
  omega

/-! ## Reading goes deep enough -/

theorem Shows.readTo {v w : Value} (shows : s.Shows v w) {ids : Finset Nat} {depth : Nat}
    (all : ∀ id, w.Occurs id → id ∈ ids) (enough : ids.card ≤ depth) : s.readTo depth v = w := by
  induction shows generalizing ids depth with
  | leaf leaf => exact readTo_leaf s depth leaf
  | list length _ ih =>
      rw [readTo_list, map_eq_of_zip length fun pair member => ih pair member ?_ enough]
      exact fun id occurs => all id (.part (List.of_mem_zip member).2 occurs)
  | tuple length _ ih =>
      rw [readTo_tuple, map_eq_of_zip length fun pair member => ih pair member ?_ enough]
      exact fun id occurs => all id (.part (List.of_mem_zip member).2 occurs)
  | dict length _ _ keys values =>
      rw [readTo_dict, map_eq_of_zip length fun pair member => Prod.ext ?_ ?_]
      · refine keys pair member (fun id occurs => all id (.part ?_ occurs)) enough
        exact Value.mem_parts_dict.mpr ⟨_, (List.of_mem_zip member).2, .inl rfl⟩
      · refine values pair member (fun id occurs => all id (.part ?_ occurs)) enough
        exact Value.mem_parts_dict.mpr ⟨_, (List.of_mem_zip member).2, .inr rfl⟩
  | wrapped _ ih =>
      rw [readTo_wrapped, ih (fun id occurs => all id (.part (.head _) occurs)) enough]
  | fresh length names _ ih =>
      rw [readTo_fresh, map_eq_of_zip length fun pair member => Prod.ext (names pair member) ?_]
      refine ih pair member (fun id occurs => all id (.part ?_ occurs)) enough
      exact List.mem_map_of_mem (List.of_mem_zip member).2
  | @object type fields shown id object found length names values ih =>
      have inside : id ∈ ids := all id .here
      have apart := ShowsFields.not_occurs found ⟨length, names, values⟩
      cases depth with
      | zero =>
          have some := Finset.card_pos.mpr ⟨id, inside⟩
          omega
      | succ depth =>
          rw [readTo_object depth found,
            map_eq_of_zip length fun pair member => Prod.ext (names pair member) ?_]
          -- The object itself does not occur again further down.
          refine @ih pair member (ids.erase id) depth (fun other occurs => ?_) ?_
          · have listed := (List.of_mem_zip member).2
            refine Finset.mem_erase.mpr ⟨?_, all other (.part (List.mem_map_of_mem listed) occurs)⟩
            rintro rfl
            exact apart _ listed occurs
          · rw [Finset.card_erase_of_mem inside]
            omega

theorem Shows.read {v w : Value} (shows : s.Shows v w) : s.read v = w := by
  refine @Shows.readTo s v w shows (Finset.range s.objects.size) _ (fun id occurs => ?_) (by simp)
  obtain ⟨object, -, found, -⟩ := shows.of_occurs occurs
  obtain ⟨bound, -⟩ := Array.getElem?_eq_some_iff.mp found
  exact Finset.mem_range.mpr bound

theorem shows_self (s : Store) {v : Value} (objectless : v.isObjectless = true) : s.Shows v v := by
  induction v using Value.partsInduction with
  | step v ih =>
      have below := (Value.all_iff.mp objectless).2
      have parts : ∀ w ∈ v.parts, s.Shows w w := fun w member => ih w member (below w member)
      cases v with
      | list xs => exact .list rfl (forall_zip_self parts)
      | tuple xs => exact .tuple rfl (forall_zip_self parts)
      | dict entries =>
          refine .dict rfl ?keys ?values
          case keys =>
            refine forall_zip_self (motive := fun a b : Value × Value => s.Shows a.1 b.1) fun entry member => ?_
            exact parts _ (Value.mem_parts_dict.mpr ⟨entry, member, .inl rfl⟩)
          case values =>
            refine forall_zip_self (motive := fun a b : Value × Value => s.Shows a.2 b.2) fun entry member => ?_
            exact parts _ (Value.mem_parts_dict.mpr ⟨entry, member, .inr rfl⟩)
      | wrapped type base => exact .wrapped (parts base (.head _))
      | object type fields id => cases objectless
      | _ => exact .leaf rfl

end Store

end DevTools
