import DevTools.Proofs.Value.Genuine

namespace DevTools

def Protocol.IsKey (p : Protocol) (v : Value) : Prop :=
  p.Genuine v ∧ v.keyFault?.isNone = true

theorem Protocol.IsKey.item {p : Protocol} {xs : List Value} (key : p.IsKey (.tuple xs)) {x : Value}
    (member : x ∈ xs) : p.IsKey x :=
  ⟨key.1.part member, Value.keysFault?_isNone key.2 x member⟩

theorem Protocol.isKey_text (p : Protocol) (s : String) : p.IsKey (.text s) :=
  ⟨rfl, rfl⟩

namespace Value

/-! ## Plain values -/

theorem amount?_of_sameAmount {a b : Value} (same : sameAmount a b = true) :
    a.amount? = b.amount? ∧ b.amount?.isSome = true := by
  unfold sameAmount at same
  cases left : a.amount? with
  | none => simp [left] at same
  | some x =>
      cases right : b.amount? with
      | none => simp [left, right] at same
      | some y => simpa [left, right] using same

theorem equals_of_amount? {a : Value} (numeric : a.amount?.isSome = true) (b : Value) :
    equals a b = sameAmount a b.core := by
  cases a <;> simp_all [amount?, equals]

theorem core_of_isPlain {v : Value} (plain : v.isPlain = true) : v.core = v := by
  cases v <;> simp_all [isPlain, core]

theorem nanMark?_of_amount? {v : Value} (numeric : v.amount?.isSome = true) : v.nanMark? = none := by
  cases v with
  | float x => cases x <;> simp_all [amount?, Binary64.amount?, nanMark?, core]
  | _ => simp_all [amount?, nanMark?, core]

/-- Plain values that are equal equal the same values, and none of them is a NaN. -/
def SameForm (a b : Value) : Prop :=
  (∀ c, equals a c = equals b c) ∧ a.nanMark? = none ∧ b.nanMark? = none

theorem SameForm.of_amount? {a b : Value} (plain : b.isPlain = true)
    (numeric : ∀ v, equals a v = sameAmount a v.core) (same : equals a b = true) : SameForm a b := by
  rw [numeric, core_of_isPlain plain] at same
  obtain ⟨amount, some⟩ := amount?_of_sameAmount same
  refine ⟨fun c => ?_, nanMark?_of_amount? (amount ▸ some), nanMark?_of_amount? some⟩
  rw [numeric, equals_of_amount? some, sameAmount, sameAmount, amount]

theorem SameForm.of_equals {a b : Value} (left : a.isPlain = true) (right : b.isPlain = true)
    (same : equals a b = true) : SameForm a b := by
  cases a with
  | bool x => exact .of_amount? right (fun v => by simp only [equals]) same
  | int n => exact .of_amount? right (fun v => by simp only [equals]) same
  | float x => exact .of_amount? right (fun v => by simp only [equals]) same
  | null =>
      cases b <;> simp only [equals, isNull, Bool.false_eq_true] at same
      exact ⟨fun c => rfl, rfl, rfl⟩
  | text s =>
      rw [equals, core_of_isPlain right] at same
      cases b <;> simp only [Bool.false_eq_true] at same
      rw [eq_of_beq same]
      exact ⟨fun c => rfl, rfl, rfl⟩
  | member type name wire =>
      cases b <;> simp only [equals, Bool.false_eq_true] at same
      obtain ⟨sameType, sameName⟩ := Bool.and_eq_true_iff.mp same
      rw [eq_of_beq sameType, eq_of_beq sameName]
      exact ⟨fun c => by simp only [equals], rfl, rfl⟩
  | _ => cases left

theorem eq_of_nanMark? {v : Value} (plain : v.isPlain = true) {mark : Nat} (marked : v.nanMark? = some mark) :
    v = float (.nan (some mark)) := by
  rw [nanMark?, core_of_isPlain plain] at marked
  split at marked
  · rw [marked]
  · cases marked

theorem agrees_congr_of_isPlain {a b : Value} (left : a.isPlain = true) (right : b.isPlain = true)
    (same : agrees a b = true) (c : Value) : agrees a c = agrees b c := by
  rcases Bool.or_eq_true_iff.mp same with nan | equal
  · unfold isSameNaN at nan
    split at nan
    · rename_i first second
      rw [eq_of_nanMark? left first, eq_of_nanMark? right second, eq_of_beq nan]
    · cases nan
  · obtain ⟨equal, first, second⟩ := SameForm.of_equals left right equal
    simp only [agrees, isSameNaN, first, second, equal]

/-! ## Keys -/

variable {p : Protocol}

theorem agrees_core_left {v : Value} (genuine : p.Genuine v) (a : Value) : agrees v a = agrees v.core a := by
  cases v with
  | wrapped type base =>
      obtain ⟨b, admitted⟩ := genuine.wrapped
      exact agrees_wrapped_left admitted a
  | _ => rfl

theorem agrees_core_right {v : Value} (genuine : p.Genuine v) (a : Value) : agrees a v = agrees a v.core := by
  cases v with
  | wrapped type base =>
      obtain ⟨b, admitted⟩ := genuine.wrapped
      exact agrees_wrapped_right admitted a
  | _ => rfl

theorem agrees_tuple (xs : List Value) (v : Value) : agrees (tuple xs) v = equals (tuple xs) v := by
  simp [agrees, isSameNaN, nanMark?, core]

theorem agrees_tuple_of_isPlain {v : Value} (genuine : p.Genuine v) (plain : v.core.isPlain = true)
    (xs : List Value) : agrees (tuple xs) v = false ∧ agrees v (tuple xs) = false := by
  have unequal := equals_tuple_isPlain plain xs
  rw [agrees_core_left genuine, agrees_core_right genuine, agrees_tuple]
  refine ⟨unequal.1, ?_⟩
  rw [agrees, unequal.2, isSameNaN_comm]
  rfl

theorem equalItems_congr {as bs cs : List Value}
    (congr : ∀ a ∈ as, ∀ b ∈ bs, ∀ c ∈ cs, agrees a b = true → agrees a c = agrees b c)
    (same : equalItems as bs = true) : equalItems as cs = equalItems bs cs := by
  induction as generalizing bs cs with
  | nil =>
      cases bs with
      | nil => rfl
      | cons b rest => cases same
  | cons a rest ih =>
      cases bs with
      | nil => cases same
      | cons b others =>
          cases cs with
          | nil => rfl
          | cons c last =>
              obtain ⟨head, tail⟩ := Bool.and_eq_true_iff.mp same
              have first := congr a List.mem_cons_self b List.mem_cons_self c List.mem_cons_self head
              have later := ih (fun x hx y hy z hz => congr x (List.mem_cons_of_mem _ hx) y
                (List.mem_cons_of_mem _ hy) z (List.mem_cons_of_mem _ hz)) tail
              simp only [agrees] at first
              simp only [equalItems, first, later]

theorem agrees_congr {a b c : Value} (left : p.IsKey a) (right : p.IsKey b) (other : p.IsKey c)
    (same : agrees a b = true) : agrees a c = agrees b c := by
  -- A plain value agrees with no tuple, and tuples agree item by item.
  induction a using partsInduction generalizing b c with
  | step a ih =>
      rcases isPlain_core left.1 left.2 with plainLeft | ⟨xs, rfl⟩
      · rcases isPlain_core right.1 right.2 with plainRight | ⟨ys, rfl⟩
        · rw [agrees_core_left left.1, agrees_core_right right.1] at same
          rw [agrees_core_left left.1, agrees_core_left right.1]
          exact agrees_congr_of_isPlain plainLeft plainRight same c
        · rw [(agrees_tuple_of_isPlain left.1 plainLeft ys).2] at same
          cases same
      · rcases isPlain_core right.1 right.2 with plainRight | ⟨ys, rfl⟩
        · rw [(agrees_tuple_of_isPlain right.1 plainRight xs).1] at same
          cases same
        · rcases isPlain_core other.1 other.2 with plain | ⟨zs, rfl⟩
          · rw [(agrees_tuple_of_isPlain other.1 plain xs).1, (agrees_tuple_of_isPlain other.1 plain ys).1]
          · rw [agrees_tuple, equals] at same
            rw [agrees_tuple, agrees_tuple, equals, equals]
            exact equalItems_congr (fun x hx y hy z hz => ih x hx (left.item hx) (right.item hy)
              (other.item hz)) same

theorem agrees_of_agrees {a b c : Value} (left : p.IsKey a) (right : p.IsKey b) (other : p.IsKey c)
    (first : agrees a c = true) (second : agrees b c = true) : agrees a b = true := by
  rw [agrees_comm left.1 right.1 left.2 right.2]
  rw [agrees_comm left.1 other.1 left.2 other.2] at first
  rw [agrees_comm right.1 other.1 right.2 other.2] at second
  rw [← agrees_congr other right left second]
  exact first

theorem exists_of_keysFault? {xs : List Value} {fault : Fault} (refused : keysFault? xs = some fault) :
    ∃ x ∈ xs, x.keyFault? = some fault := by
  induction xs with
  | nil => cases refused
  | cons x rest ih =>
      rw [keysFault?] at refused
      cases here : x.keyFault? with
      | some found =>
          rw [here] at refused
          exact ⟨x, List.mem_cons_self, here.trans refused⟩
      | none =>
          rw [here] at refused
          obtain ⟨y, inside, found⟩ := ih refused
          exact ⟨y, List.mem_cons_of_mem _ inside, found⟩

theorem unhashable_of_keyFault? {v : Value} {fault : Fault} (refused : v.keyFault? = some fault) :
    ∃ kind, fault = .unhashable kind := by
  induction v using partsInduction with
  | step v ih =>
      unfold keyFault? at refused
      split at refused
      · obtain ⟨x, inside, found⟩ := exists_of_keysFault? refused
        exact ih x inside found
      all_goals cases refused
      all_goals exact ⟨_, rfl⟩

end Value

end DevTools
