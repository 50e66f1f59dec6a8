import DevTools.Catalogue
import DevTools.Proofs.Codec.Reading
import Mathlib.Data.List.Chain

/-!
# How far decoding descends

The decoder of a type asks for the decoders of other types, or for itself again. `Plan` is what it does in
terms of these questions, whatever the answers are. Each of them is about an entry of the message or an item
of one, which is less deep than the message; a message without entries leads to none. So the depth of a
message bounds how many decoders are at work at one time.
-/

namespace DevTools

/-! ## Depth -/

namespace Value

mutual

/-- How deep lists, dictionaries and objects are nested in a value. A wrapper adds nothing. -/
def depth : Value → Nat
  | list items => depthItems items + 1
  | tuple items => depthItems items + 1
  | dict entries => depthEntries entries + 1
  | wrapped _ base => depth base
  | object _ fields _ => depthFields fields + 1
  | _ => 0
termination_by structural v => v

def depthItems : List Value → Nat
  | [] => 0
  | v :: rest => max (depth v) (depthItems rest)
termination_by structural items => items

def depthEntries : List (Value × Value) → Nat
  | [] => 0
  | (k, v) :: rest => max (max (depth k) (depth v)) (depthEntries rest)
termination_by structural entries => entries

def depthFields : List (String × Value) → Nat
  | [] => 0
  | (_, v) :: rest => max (depth v) (depthFields rest)
termination_by structural fields => fields

end

variable {v w x : Value}

theorem depth_core (v : Value) : v.core.depth = v.depth := by
  cases v <;> rfl

theorem depth_le_depthItems {items : List Value} (member : v ∈ items) : v.depth ≤ depthItems items := by
  induction items with
  | nil => simp at member
  | cons head rest ih =>
      simp only [depthItems]
      rcases List.mem_cons.mp member with rfl | inside
      · exact Nat.le_max_left _ _
      · exact Nat.le_trans (ih inside) (Nat.le_max_right _ _)

theorem depth_le_depthEntries {entries : List (Value × Value)} {entry : Value × Value}
    (member : entry ∈ entries) :
    entry.1.depth ≤ depthEntries entries ∧ entry.2.depth ≤ depthEntries entries := by
  induction entries with
  | nil => simp at member
  | cons head rest ih =>
      simp only [depthEntries]
      rcases List.mem_cons.mp member with rfl | inside
      · omega
      · have below := ih inside
        omega

theorem depth_lt_of_entry {key : String} (found : v.entry key = .ok w) : w.depth < v.depth := by
  obtain ⟨entries, hcore, located⟩ := entry_ok.mp found
  obtain ⟨k, member, -⟩ := mem_of_lookup? located
  rw [← depth_core v, hcore]
  exact Nat.lt_succ_of_le (depth_le_depthEntries member).2

theorem depth_le_of_items {xs : List Value} (hitems : w.items = .ok xs) (member : x ∈ xs) :
    x.depth ≤ w.depth := by
  rw [← depth_core w]
  unfold items at hitems
  split at hitems
  · -- The characters of a text are no smaller than the text, but no deeper either.
    cases hitems
    obtain ⟨c, -, rfl⟩ := List.mem_map.mp member
    exact Nat.zero_le _
  · rename_i hcore
    cases hitems
    rw [hcore]
    exact Nat.le_succ_of_le (depth_le_depthItems member)
  · rename_i hcore
    cases hitems
    rw [hcore]
    exact Nat.le_succ_of_le (depth_le_depthItems member)
  · rename_i entries hcore
    cases hitems
    obtain ⟨entry, inside, rfl⟩ := List.mem_map.mp member
    rw [hcore]
    exact Nat.le_succ_of_le (depth_le_depthEntries inside).1
  · cases hitems

theorem Reaches.depth_lt (reached : v.Reaches x) : x.depth < v.depth := by
  obtain ⟨key, w, found, rfl | ⟨xs, hitems, member⟩⟩ := reached
  · exact depth_lt_of_entry found
  · exact Nat.lt_of_le_of_lt (depth_le_of_items hitems member) (depth_lt_of_entry found)

theorem Reaches.exists_entries (reached : v.Reaches x) : ∃ entries, v.core = dict entries := by
  obtain ⟨key, w, found, -⟩ := reached
  obtain ⟨entries, hcore, -⟩ := entry_ok.mp found
  exact ⟨entries, hcore⟩

end Value

/-! ## Plans -/

structure Visit where
  type : TypeName
  message : Value

abbrev Callee := TypeName → Value → Except Fault Value

/-- A computation that asks for other decoders and goes on with their answers. -/
inductive Plan (α : Type) where
  | done (result : Except Fault α)
  | ask (visit : Visit) (next : Except Fault Value → Plan α)

namespace Plan

variable {α β : Type}

protected def bind (plan : Plan α) (f : α → Plan β) : Plan β :=
  match plan with
  | done (.ok a) => f a
  | done (.error fault) => done (.error fault)
  | ask visit next => ask visit fun answer => (next answer).bind f

instance : Monad Plan where
  pure a := done (.ok a)
  bind := Plan.bind

def run (callee : Callee) : Plan α → Except Fault α
  | done result => result
  | ask visit next => (next (callee visit.type visit.message)).run callee

inductive Asks : Plan α → Visit → Prop
  | now {visit : Visit} {next : Except Fault Value → Plan α} : Asks (ask visit next) visit
  | later {visit earlier : Visit} {next : Except Fault Value → Plan α} {answer : Except Fault Value} :
      Asks (next answer) visit → Asks (ask earlier next) visit

variable (callee : Callee)

theorem run_bind (plan : Plan α) (f : α → Plan β) :
    (plan >>= f).run callee = plan.run callee >>= fun a => (f a).run callee := by
  induction plan with
  | done result => cases result <;> rfl
  | ask visit next ih => exact ih _

theorem run_map (f : α → β) (plan : Plan α) : (f <$> plan).run callee = f <$> plan.run callee := by
  show (plan >>= fun a => pure (f a)).run callee = _
  rw [run_bind]
  cases plan.run callee <;> rfl

theorem run_congr {callee callee' : Callee} {plan : Plan α}
    (agree : ∀ visit, plan.Asks visit →
      callee visit.type visit.message = callee' visit.type visit.message) :
    plan.run callee = plan.run callee' := by
  induction plan with
  | done result => rfl
  | ask visit next ih =>
      show (next (callee _ _)).run callee = (next (callee' _ _)).run callee'
      rw [← agree visit .now]
      exact ih _ fun later asked => agree later (.later asked)

theorem not_asks_done {result : Except Fault α} {visit : Visit} : ¬ (done result).Asks visit :=
  nofun

theorem asks_bind {plan : Plan α} {f : α → Plan β} {visit : Visit} (asked : (plan >>= f).Asks visit) :
    plan.Asks visit ∨ ∃ a, (f a).Asks visit := by
  induction plan with
  | done result =>
      cases result with
      | ok a => exact .inr ⟨a, asked⟩
      | error fault => exact absurd asked not_asks_done
  | ask first next ih =>
      cases asked with
      | now => exact .inl .now
      | later rest => exact (ih _ rest).imp_left .later

theorem asks_map {plan : Plan α} {f : α → β} {visit : Visit} (asked : (f <$> plan).Asks visit) :
    plan.Asks visit := by
  rcases asks_bind (show (plan >>= fun a => pure (f a)).Asks visit from asked) with first | ⟨a, rest⟩
  · exact first
  · exact absurd rest not_asks_done

end Plan

/-! ## The decoder of a type as a plan -/

namespace Protocol

variable (p : Protocol)

def planItem (w : Value) : Item → Plan Value
  | .primitive kind => .done (kind.convert w)
  | .reference ref =>
    if ref.selfNamed then .done (.error (.undefinedName ref.target.domain))
    else if (p.declaration? ref.target).isSome then .ask ⟨ref.target, w⟩ .done
    else .done (.error (.undefinedName ref.target.name))

def planItems (item : Item) : List Value → Plan (List Value)
  | [] => .done (.ok [])
  | w :: rest => do
    let value ← p.planItem w item
    let values ← planItems item rest
    return value :: values

def planShape (w : Value) : Shape → Plan Value
  | .one item => p.planItem w item
  | .many item => do
    let items ← Plan.done w.items
    .list <$> p.planItems item items

def planPresent (m : Value) (slot : Slot) : Plan Value :=
  match slot.shape.unresolved? with
  | some scope => .done (.error (.undefinedName scope))
  | none => do
    let w ← Plan.done (m.entry slot.key)
    p.planShape w slot.shape

def planSlot (m : Value) (slot : Slot) : Plan Value :=
  if slot.isOptional then do
    if ← Plan.done (m.holds slot.key) then p.planPresent m slot else return .null
  else p.planPresent m slot

def planFields (m : Value) : List Field → Plan (List (String × Value))
  | [] => .done (.ok [])
  | field :: rest => do
    let value ← p.planSlot m field.toSlot
    let values ← planFields m rest
    return (field.name, value) :: values

def plan (type : TypeName) (m : Value) : Plan Value :=
  match p.declaration? type with
  | some (.wrapper _ base) => .done (.wrapped type <$> base.convert m)
  | some (.enumeration _ members) => .done (decodeMember type members m)
  | some (.record _ fields) => (.object type · none) <$> p.planFields m fields
  | some (.event event) => (.object type · none) <$> p.planFields m event.fields
  | none => .done (.error (.undefinedName type.name))

/-! ### What a plan comes to -/

def entryVia (callee : Callee) (m : Value) : EntryDecoder := fun key shape => do
  let w ← m.entry key
  match shape with
  | .one item => (p.planItem w item).run callee
  | .many item => .list <$> (w.items >>= List.mapM fun x => (p.planItem x item).run callee)

variable {p} (callee : Callee)

theorem planItems_run (item : Item) (xs : List Value) :
    (p.planItems item xs).run callee = xs.mapM fun x => (p.planItem x item).run callee := by
  induction xs with
  | nil => rfl
  | cons x rest ih =>
      rw [List.mapM_cons, planItems, Plan.run_bind]
      simp only [Plan.run_bind, ih]
      rfl

theorem planShape_run (w : Value) (shape : Shape) :
    (p.planShape w shape).run callee = match shape with
      | .one item => (p.planItem w item).run callee
      | .many item => .list <$> (w.items >>= List.mapM fun x => (p.planItem x item).run callee) := by
  cases shape with
  | one item => rfl
  | many item =>
      show (Plan.done w.items >>= fun items => Value.list <$> p.planItems item items).run callee = _
      simp only [Plan.run_bind, Plan.run_map, planItems_run]
      cases w.items <;> rfl

theorem planPresent_run (m : Value) (slot : Slot) :
    (p.planPresent m slot).run callee = decodePresentWith (p.entryVia callee m) slot := by
  unfold planPresent decodePresentWith
  cases slot.shape.unresolved? with
  | some scope => rfl
  | none =>
      simp only [Plan.run_bind, planShape_run]
      rfl

theorem planSlot_run (m : Value) (slot : Slot) :
    (p.planSlot m slot).run callee = decodeSlotWith m (p.entryVia callee m) slot := by
  unfold planSlot decodeSlotWith
  rw [← planPresent_run]
  cases slot.isOptional with
  | false => rfl
  | true =>
      simp only [↓reduceIte, Plan.run_bind]
      cases m.holds slot.key with
      | error fault => rfl
      | ok found => cases found <;> rfl

theorem planFields_run (m : Value) (fields : List Field) :
    (p.planFields m fields).run callee = decodeFieldsWith m (p.entryVia callee m) fields := by
  induction fields with
  | nil => rfl
  | cons field rest ih =>
      simp only [planFields, decodeFieldsWith, Plan.run_bind, planSlot_run, ih]
      rfl

theorem plan_run (type : TypeName) (m : Value) :
    (p.plan type m).run callee =
      p.decodeItemWith m (p.entryVia callee m) (.reference ⟨type, false⟩) := by
  simp only [plan, decodeItemWith, Bool.false_eq_true, ↓reduceIte]
  cases p.declaration? type with
  | none => rfl
  | some declaration =>
      cases declaration with
      | wrapper name base => rfl
      | enumeration name members => rfl
      | record name fields =>
          simp only [Plan.run_map, planFields_run]
          cases decodeFieldsWith m (p.entryVia callee m) fields <;> rfl
      | event event =>
          simp only [Plan.run_map, planFields_run]
          cases decodeFieldsWith m (p.entryVia callee m) event.fields <;> rfl

theorem planItem_run_decode (w : Value) (item : Item) :
    (p.planItem w item).run p.decode = p.decodeItem w item := by
  rw [decodeItem_eq]
  cases item with
  | primitive kind => rfl
  | reference ref =>
      simp only [planItem]
      cases self : ref.selfNamed with
      | true => simp [decodeItemWith, self, Plan.run]
      | false =>
          cases declared : p.declaration? ref.target with
          | none => simp [decodeItemWith, self, declared, Plan.run]
          | some declaration =>
              show p.decode ref.target w = _
              rw [decode, decodeItem_eq]
              simp [decodeItemWith, self, declared]

theorem entryVia_decode (m : Value) : p.entryVia p.decode m = p.entryDecoder m := by
  funext key shape
  have items : ∀ (item : Item) xs, (List.mapM fun x => (p.planItem x item).run p.decode) xs =
      p.decodeItems xs item := by
    intro item xs
    induction xs with
    | nil => rfl
    | cons x rest ih =>
        rw [List.mapM_cons, ih, planItem_run_decode]
        rfl
  rw [entryDecoder_eq]
  unfold entryVia
  cases m.entry key with
  | error fault => rfl
  | ok w =>
      cases shape with
      | one item => exact planItem_run_decode w item
      | many item =>
          show Value.list <$> (w.items >>= _) = Value.list <$> p.decodeAll w item
          rw [decodeAll_eq]
          congr 2
          funext xs
          exact items item xs

theorem plan_run_decode (type : TypeName) (m : Value) :
    (p.plan type m).run p.decode = p.decode type m := by
  rw [plan_run, entryVia_decode, decode, decodeItem_eq]

/-! ### What a plan asks -/

variable {m w : Value} {visit : Visit}

theorem asks_planItem {item : Item} (asked : (p.planItem w item).Asks visit) : visit.message = w := by
  cases item with
  | primitive kind => exact absurd asked Plan.not_asks_done
  | reference ref =>
      simp only [planItem] at asked
      split at asked
      · exact absurd asked Plan.not_asks_done
      · split at asked
        · cases asked with
          | now => rfl
          | later rest => exact absurd rest Plan.not_asks_done
        · exact absurd asked Plan.not_asks_done

theorem asks_planItems {item : Item} {xs : List Value} (asked : (p.planItems item xs).Asks visit) :
    visit.message ∈ xs := by
  induction xs with
  | nil => exact absurd asked Plan.not_asks_done
  | cons x rest ih =>
      rcases Plan.asks_bind asked with here | ⟨value, later⟩
      · rw [asks_planItem here]
        exact List.mem_cons_self
      · rcases Plan.asks_bind later with below | ⟨values, none⟩
        · exact List.mem_cons_of_mem _ (ih below)
        · exact absurd none Plan.not_asks_done

theorem asks_planShape {shape : Shape} (asked : (p.planShape w shape).Asks visit) :
    visit.message = w ∨ ∃ xs, w.items = .ok xs ∧ visit.message ∈ xs := by
  cases shape with
  | one item => exact .inl (asks_planItem asked)
  | many item =>
      unfold planShape at asked
      cases hitems : w.items with
      | error fault =>
          rw [hitems] at asked
          exact absurd asked Plan.not_asks_done
      | ok xs =>
          rw [hitems] at asked
          exact .inr ⟨xs, rfl, asks_planItems (Plan.asks_map asked)⟩

theorem asks_planPresent {slot : Slot} (asked : (p.planPresent m slot).Asks visit) :
    m.Reaches visit.message := by
  unfold planPresent at asked
  split at asked
  · exact absurd asked Plan.not_asks_done
  · cases found : m.entry slot.key with
    | error fault =>
        -- A text may hold the key as a part of it, but it has no entry under the key.
        rw [found] at asked
        exact absurd asked Plan.not_asks_done
    | ok w =>
        rw [found] at asked
        exact ⟨slot.key, w, found, asks_planShape asked⟩

theorem asks_planSlot {slot : Slot} (asked : (p.planSlot m slot).Asks visit) :
    m.Reaches visit.message := by
  unfold planSlot at asked
  split at asked
  · rcases Plan.asks_bind asked with none | ⟨found, rest⟩
    · exact absurd none Plan.not_asks_done
    · split at rest
      · exact asks_planPresent rest
      · exact absurd rest Plan.not_asks_done
  · exact asks_planPresent asked

theorem asks_planFields {fields : List Field} (asked : (p.planFields m fields).Asks visit) :
    m.Reaches visit.message := by
  induction fields with
  | nil => exact absurd asked Plan.not_asks_done
  | cons field rest ih =>
      rcases Plan.asks_bind asked with here | ⟨value, later⟩
      · exact asks_planSlot here
      · rcases Plan.asks_bind later with below | ⟨values, none⟩
        · exact ih below
        · exact absurd none Plan.not_asks_done

theorem asks_plan {type : TypeName} (asked : (p.plan type m).Asks visit) : m.Reaches visit.message := by
  unfold plan at asked
  split at asked
  · exact absurd asked Plan.not_asks_done
  · exact absurd asked Plan.not_asks_done
  · exact asks_planFields (Plan.asks_map asked)
  · exact asks_planFields (Plan.asks_map asked)
  · exact absurd asked Plan.not_asks_done

/-! ## Nested decoders -/

variable (p)

def Nests (outer inner : Visit) : Prop :=
  (p.plan outer.type outer.message).Asks inner

/-- Decodes with a number of decoders that may be at work at one time. What would need one more overflows. -/
def within (overflow : Callee) : Nat → Callee
  | 0 => overflow
  | frames + 1 => fun type m => (p.plan type m).run (within overflow frames)

variable {p}

theorem length_le_depth {outer : Visit} {nested : List Visit} (chain : (outer :: nested).IsChain p.Nests) :
    nested.length ≤ outer.message.depth := by
  induction nested generalizing outer with
  | nil => exact Nat.zero_le _
  | cons inner rest ih =>
      obtain ⟨step, chain⟩ := List.isChain_cons_cons.mp chain
      exact Nat.lt_of_le_of_lt (ih chain) (asks_plan step).depth_lt

theorem within_eq_decode (overflow : Callee) {frames : Nat} {type : TypeName} {m : Value}
    (enough : m.depth < frames) : p.within overflow frames type m = p.decode type m := by
  induction frames generalizing type m with
  | zero => omega
  | succ frames ih =>
      rw [within, ← plan_run_decode]
      refine Plan.run_congr fun visit asked => ih ?_
      have less := (asks_plan asked).depth_lt
      omega

end Protocol

/-! ## The statement -/

open Protocol

/-- The decoder of a type visits other decoders only with entries of the message and items of those, all of
them less deep than the message. So no more decoders than the depth of the message and one are ever at work
at one time, and with so many frames decoding always comes to its result. -/
theorem decoding_descends (p : Protocol) (type : TypeName) (m : Value) :
    (∀ callee, (p.plan type m).run callee =
      p.decodeItemWith m (p.entryVia callee m) (.reference ⟨type, false⟩)) ∧
    (p.plan type m).run p.decode = p.decode type m ∧
    (∀ visit, (p.plan type m).Asks visit →
      m.Reaches visit.message ∧ visit.message.depth < m.depth) ∧
    ((∀ entries, m.core ≠ .dict entries) → ∀ visit, ¬ (p.plan type m).Asks visit) ∧
    (∀ nested, (⟨type, m⟩ :: nested).IsChain p.Nests → nested.length ≤ m.depth) ∧
    (∀ overflow frames, m.depth < frames → p.within overflow frames type m = p.decode type m) := by
  refine ⟨fun callee => plan_run callee type m, plan_run_decode type m, fun visit asked => ?_,
    fun none visit asked => ?_, fun nested chain => length_le_depth chain,
    fun overflow frames enough => within_eq_decode overflow enough⟩
  · exact ⟨asks_plan asked, (asks_plan asked).depth_lt⟩
  · obtain ⟨entries, hcore⟩ := (asks_plan asked).exists_entries
    exact none entries hcore

-- A text without characters is a list of no frames, and any value may stand for the parent.
def traceUnder (parent : Value) : Value :=
  .dict [(.text "callFrames", .text ""), (.text "parent", parent)]

theorem decoding_descends_traceUnder :
    ∃ visit : Visit, visit = ⟨⟨"runtime", "StackTrace"⟩, traceUnder (traceUnder (.int 5))⟩ ∧
      visit.message.depth = 2 ∧
      (∃ nested, (visit :: nested).IsChain protocol.Nests ∧ nested.length = 2) ∧
      (∀ nested, (visit :: nested).IsChain protocol.Nests → nested.length ≤ 2) ∧
      protocol.within (fun _ _ => .ok .null) 3 visit.type visit.message =
        .error (.notSubscriptable "int") := by
  obtain ⟨-, -, -, -, bound, enough⟩ :=
    decoding_descends protocol ⟨"runtime", "StackTrace"⟩ (traceUnder (traceUnder (.int 5)))
  refine ⟨_, rfl, rfl, ⟨[⟨⟨"runtime", "StackTrace"⟩, traceUnder (.int 5)⟩,
    ⟨⟨"runtime", "StackTrace"⟩, .int 5⟩], ?_, rfl⟩, bound, ?_⟩
  · exact .cons_cons .now (.cons_cons .now (.singleton _))
  · rw [enough _ 3 (by decide)]
    rfl

end DevTools
