import DevTools.Proofs.Methods
import DevTools.Proofs.Value.Keys

namespace DevTools.Registry

/-! ## Runs -/

inductive Action where
  | register (method : Value) (type : TypeName)
  | dispatch (message : Value)

inductive Outcome where
  | registered (type : TypeName)
  | event (event : Value)
  | fault (fault : Fault)

def act (p : Protocol) (registry : Registry) : Action → Outcome × Registry
  | .register method type =>
    match registry.register method type with
    | .ok (type, next) => (.registered type, next)
    | .error fault => (.fault fault, registry)
  | .dispatch message =>
    match registry.decodeEvent p message with
    | .ok event => (.event event, registry)
    | .error fault => (.fault fault, registry)

def run (p : Protocol) (registry : Registry) (actions : List Action) : Registry :=
  actions.foldl (fun registry action => (registry.act p action).2) registry

def Action.Genuine (p : Protocol) : Action → Prop
  | .register method _ => p.Genuine method
  | .dispatch _ => True

def Action.registration? : Action → Option (Value × TypeName)
  | .register method type => if method.keyFault?.isNone then some (method, type) else none
  | .dispatch _ => none

def latest? (history : List (Value × TypeName)) (method : Value) : Option TypeName :=
  (history.filter (·.1.agrees method)).getLast?.map (·.2)

def type? (registry : Registry) (method : Value) : Option TypeName :=
  (registry.find? (·.1.agrees method)).map (·.2)

variable {p : Protocol} {registry : Registry}

theorem act_register {method : Value} (hashable : method.keyFault?.isNone = true) (type : TypeName) :
    registry.act p (.register method type) = (.registered type, registry.put method type) := by
  rw [act, register, Option.isNone_iff_eq_none.mp hashable]

theorem act_register_fault {method : Value} {fault : Fault} (refused : method.keyFault? = some fault)
    (type : TypeName) : registry.act p (.register method type) = (.fault fault, registry) := by
  rw [act, register, refused]

theorem act_dispatch (message : Value) : (registry.act p (.dispatch message)).2 = registry := by
  rw [act]
  split <;> rfl

theorem act_snd (action : Action) : (registry.act p action).2 =
    match action.registration? with
    | some (method, type) => registry.put method type
    | none => registry := by
  cases action with
  | dispatch message => exact act_dispatch message
  | register method type =>
      cases refused : method.keyFault? with
      | some fault => simp only [act_register_fault refused, Action.registration?, refused]; rfl
      | none =>
          have hashable : method.keyFault?.isNone = true := by rw [refused]; rfl
          simp only [act_register hashable, Action.registration?, hashable]
          rfl

/-! ## Look-ups -/

theorem find_eq {method : Value} (hashable : method.keyFault?.isNone = true) :
    registry.find method = match registry.type? method with
      | some type => .ok type
      | none => .error (.missingKey method) := by
  rw [find, Option.isNone_iff_eq_none.mp hashable, type?]
  cases registry.find? (·.1.agrees method) <;> rfl

theorem type?_cons (m : Value) (t : TypeName) (rest : Registry) (method : Value) :
    type? ((m, t) :: rest) method = if m.agrees method then some t else rest.type? method := by
  unfold type?
  rw [List.find?_cons]
  cases m.agrees method <;> rfl

theorem type?_put (keys : ∀ entry ∈ registry, p.IsKey entry.1) {method other : Value}
    (key : p.IsKey method) (key' : p.IsKey other) (type : TypeName) :
    (registry.put method type).type? other =
      if method.agrees other then some type else registry.type? other := by
  induction registry with
  | nil => rw [put, type?_cons]
  | cons entry rest ih =>
      obtain ⟨m, t⟩ := entry
      obtain ⟨head, tail⟩ := List.forall_mem_cons.mp keys
      rw [put]
      cases same : m.agrees method with
      | true =>
          have alike := Value.agrees_congr head key key' same
          simp only [↓reduceIte, type?_cons, alike]
          split <;> rfl
      | false =>
          simp only [Bool.false_eq_true, ↓reduceIte, type?_cons, ih tail]
          cases here : m.agrees other with
          | false => rfl
          | true =>
              -- A key that agreed with both would make them agree.
              have apart : method.agrees other = false := by
                refine Bool.eq_false_iff.mpr fun there => ?_
                rw [Value.agrees_of_agrees head key key' here there] at same
                cases same
              simp [apart]

theorem keys_put (keys : ∀ entry ∈ registry, p.IsKey entry.1) {method : Value} (key : p.IsKey method)
    (type : TypeName) : ∀ entry ∈ registry.put method type, p.IsKey entry.1 := by
  induction registry with
  | nil => exact List.forall_mem_singleton.mpr key
  | cons entry rest ih =>
      obtain ⟨head, tail⟩ := List.forall_mem_cons.mp keys
      rw [put]
      split
      · exact List.forall_mem_cons.mpr ⟨head, tail⟩
      · exact List.forall_mem_cons.mpr ⟨head, ih tail⟩

theorem put_put_perm (keys : ∀ entry ∈ registry, p.IsKey entry.1) {method method' : Value}
    (key : p.IsKey method) (key' : p.IsKey method') (differ : method.agrees method' = false)
    (type type' : TypeName) :
    ((registry.put method type).put method' type').Perm
      ((registry.put method' type').put method type) := by
  induction registry with
  | nil =>
      have differ' : method'.agrees method = false := by
        rwa [Value.agrees_comm key'.1 key.1 key'.2 key.2]
      simp only [put, differ, differ', Bool.false_eq_true, ↓reduceIte]
      exact .swap _ _ []
  | cons entry rest ih =>
      obtain ⟨m, t⟩ := entry
      obtain ⟨head, tail⟩ := List.forall_mem_cons.mp keys
      cases first : m.agrees method with
      | true =>
          have second : m.agrees method' = false := by
            rwa [Value.agrees_congr head key key' first]
          simp [put, first, second]
      | false =>
          cases second : m.agrees method' with
          | true => simp [put, first, second]
          | false =>
              simp only [put, first, second, Bool.false_eq_true, ↓reduceIte]
              exact (ih tail).cons _

/-! ## Histories -/

/-- The registry holds the last registration under every key. -/
structure Follows (p : Protocol) (registry : Registry) (history : List (Value × TypeName)) : Prop where
  keys : ∀ entry ∈ registry, p.IsKey entry.1
  latest : ∀ method, p.IsKey method → registry.type? method = latest? history method

theorem latest?_concat (history : List (Value × TypeName)) (m : Value) (t : TypeName) (method : Value) :
    latest? (history ++ [(m, t)]) method =
      if m.agrees method then some t else latest? history method := by
  unfold latest?
  rw [List.filter_append]
  cases same : m.agrees method <;> simp [same]

theorem Follows.put {history : List (Value × TypeName)} (follows : Follows p registry history)
    {method : Value} (key : p.IsKey method) (type : TypeName) :
    Follows p (registry.put method type) (history ++ [(method, type)]) := by
  refine ⟨keys_put follows.keys key type, fun other key' => ?_⟩
  rw [type?_put follows.keys key key', latest?_concat, follows.latest other key']

theorem Follows.act {history : List (Value × TypeName)} (follows : Follows p registry history)
    {action : Action} (genuine : action.Genuine p) :
    Follows p (registry.act p action).2 (history ++ action.registration?.toList) := by
  rw [act_snd]
  cases action with
  | dispatch message => simpa [Action.registration?] using follows
  | register method type =>
      cases hashable : method.keyFault?.isNone with
      | true =>
          simp only [Action.registration?, hashable, ↓reduceIte]
          exact follows.put ⟨genuine, hashable⟩ type
      | false => simpa only [Action.registration?, hashable, Bool.false_eq_true, ↓reduceIte,
          Option.toList_none, List.append_nil] using follows

theorem Follows.run {history : List (Value × TypeName)} (follows : Follows p registry history)
    {actions : List Action} (genuine : ∀ action ∈ actions, action.Genuine p) :
    Follows p (registry.run p actions) (history ++ actions.filterMap Action.registration?) := by
  induction actions generalizing registry history with
  | nil => simpa [Registry.run] using follows
  | cons action rest ih =>
      obtain ⟨head, tail⟩ := List.forall_mem_cons.mp genuine
      have later := ih (follows.act head) tail
      rw [List.append_assoc] at later
      have split : (action :: rest).filterMap Action.registration? =
          action.registration?.toList ++ rest.filterMap Action.registration? := by
        cases found : action.registration? <;> simp [found]
      rw [split]
      exact later

/-! ## The registry of the protocol -/

variable (p) in
def imports : List Action :=
  p.events.map fun entry => .register (.text entry.2.method) ⟨entry.1, entry.2.name⟩

theorem registrations_imports : (imports p).filterMap Action.registration? = ofProtocol p := by
  rw [Protocol.registry_eq, imports, List.filterMap_map]
  exact congrFun List.filterMap_eq_map' p.events

theorem put_of_fresh {method : Value} (fresh : ∀ entry ∈ registry, entry.1.agrees method = false)
    (type : TypeName) : registry.put method type = registry ++ [(method, type)] := by
  induction registry with
  | nil => rfl
  | cons entry rest ih =>
      obtain ⟨head, tail⟩ := List.forall_mem_cons.mp fresh
      simp only [put, head, Bool.false_eq_true, ↓reduceIte, ih tail, List.cons_append]

theorem run_of_apart {entries : Registry}
    (hashable : ∀ entry ∈ entries, entry.1.keyFault?.isNone = true)
    (apart : (registry ++ entries).Pairwise fun a b => a.1.agrees b.1 = false) :
    registry.run p (entries.map fun entry => .register entry.1 entry.2) = registry ++ entries := by
  induction entries generalizing registry with
  | nil => simp [run]
  | cons entry rest ih =>
      obtain ⟨head, tail⟩ := List.forall_mem_cons.mp hashable
      -- The method is new when it is registered, so it goes to the end.
      have fresh : ∀ earlier ∈ registry, earlier.1.agrees entry.1 = false := fun earlier member =>
        (List.pairwise_append.mp apart).2.2 earlier member entry List.mem_cons_self
      have next : (registry.act p (.register entry.1 entry.2)).2 = registry ++ [entry] := by
        rw [act_register head, put_of_fresh fresh]
      have split : registry ++ entry :: rest = (registry ++ [entry]) ++ rest := by simp
      rw [split] at apart ⊢
      rw [← ih tail apart, List.map_cons, run, List.foldl_cons, next]
      rfl

theorem run_imports : run protocol [] (imports protocol) = ofProtocol protocol := by
  have listed : imports protocol =
      (ofProtocol protocol).map fun entry => .register entry.1 entry.2 := by
    rw [Protocol.registry_eq, imports, List.map_map]
    rfl
  rw [listed, run_of_apart]
  · rfl
  · rw [Protocol.registry_eq]
    exact List.forall_mem_map.mpr fun entry _ => rfl
  · rw [Protocol.registry_eq, List.nil_append, List.pairwise_map]
    refine (List.pairwise_map.mp event_methods_nodup).imp fun differ => ?_
    rw [Value.agrees_text]
    exact beq_false_of_ne differ

theorem follows_ofProtocol : Follows protocol (ofProtocol protocol) (ofProtocol protocol) := by
  have start : Follows protocol [] [] := ⟨by simp, fun _ _ => rfl⟩
  have genuine : ∀ action ∈ imports protocol, action.Genuine protocol :=
    List.forall_mem_map.mpr fun entry _ => (protocol.isKey_text entry.2.method).1
  have follows := start.run genuine
  rwa [run_imports, registrations_imports] at follows

/-! ## Dispatch -/

theorem decodeEvent_congr {registry registry' : Registry} {message : Value}
    (same : ∀ method, message.entry "method" = .ok method → registry.find method = registry'.find method) :
    registry.decodeEvent p message = registry'.decodeEvent p message := by
  rw [decodeEvent_eq_bind, decodeEvent_eq_bind]
  cases found : message.entry "method" with
  | error fault => rfl
  | ok method =>
      have equal := same method found
      simp only [bind, Except.bind, equal]

theorem find_congr {registry registry' : Registry} {method : Value}
    (same : method.keyFault?.isNone = true → registry.type? method = registry'.type? method) :
    registry.find method = registry'.find method := by
  cases refused : method.keyFault? with
  | some fault => simp only [find, refused]
  | none =>
      have hashable : method.keyFault?.isNone = true := by rw [refused]; rfl
      rw [find_eq hashable, find_eq hashable, same hashable]

structure Dispatches (p : Protocol) (registry : Registry) (history : List (Value × TypeName)) : Prop where
  -- A message without method is refused first of all.
  noMethod : ∀ entries, Value.lookup? "method" entries = none →
    registry.decodeEvent p (.dict entries) = .error (.missingKey (.text "method"))
  -- These methods are refused whatever the parameters are, or if there are none.
  unhashable : ∀ message method fault, message.entry "method" = .ok method →
    method.keyFault? = some fault →
    registry.decodeEvent p message = .error fault ∧ fault.kind = .type
  unregistered : ∀ message method, message.entry "method" = .ok method → p.IsKey method →
    latest? history method = none →
    registry.decodeEvent p message = .error (.missingKey method)
  registered : ∀ message method type, message.entry "method" = .ok method → p.IsKey method →
    latest? history method = some type →
    registry.decodeEvent p message = (message.entry "params" >>= fun params => p.decode type params)

theorem Follows.dispatches {history : List (Value × TypeName)} (follows : Follows p registry history) :
    Dispatches p registry history where
  noMethod entries missing := by
    have method : (Value.dict entries).entry "method" = .error (.missingKey (.text "method")) := by
      simp only [Value.entry, Value.core, missing]
    rw [decodeEvent_eq_bind, method]
    rfl
  unhashable message method fault found refused := by
    obtain ⟨kind, rfl⟩ := Value.unhashable_of_keyFault? refused
    refine ⟨?_, rfl⟩
    rw [decodeEvent_eq_bind, found]
    simp only [bind, Except.bind, find, refused]
  unregistered message method found key none := by
    have missing : registry.find method = .error (.missingKey method) := by
      rw [find_eq key.2, follows.latest method key, none]
    rw [decodeEvent_eq_bind, found]
    simp only [bind, Except.bind, missing]
  registered message method type found key last := by
    have known : registry.find method = .ok type := by
      rw [find_eq key.2, follows.latest method key, last]
    rw [decodeEvent_eq_bind, found]
    simp only [bind, Except.bind, known]

theorem Follows.decodeEvent_put {history : List (Value × TypeName)} (follows : Follows p registry history)
    {method : Value} (key : p.IsKey method) (type : TypeName) {message : Value}
    (others : ∀ other, message.entry "method" = .ok other → p.Genuine other ∧ method.agrees other = false) :
    (registry.put method type).decodeEvent p message = registry.decodeEvent p message := by
  refine decodeEvent_congr fun other found => find_congr fun hashable => ?_
  obtain ⟨genuine, differ⟩ := others other found
  rw [type?_put follows.keys key ⟨genuine, hashable⟩, differ]
  rfl

theorem Follows.run_swap {history : List (Value × TypeName)} (follows : Follows p registry history)
    {method method' : Value} (genuine : p.Genuine method) (genuine' : p.Genuine method')
    (differ : method.agrees method' = false) (type type' : TypeName) :
    let one := registry.run p [.register method type, .register method' type']
    let other := registry.run p [.register method' type', .register method type]
    one.Perm other ∧ ∀ message, (∀ m, message.entry "method" = .ok m → p.Genuine m) →
      one.decodeEvent p message = other.decodeEvent p message := by
  simp only [Registry.run, List.foldl_cons, List.foldl_nil]
  cases refused : method.keyFault? with
  | some fault => simp [act_register_fault refused]
  | none =>
      cases refused' : method'.keyFault? with
      | some fault => simp [act_register_fault refused']
      | none =>
          have key : p.IsKey method := ⟨genuine, by rw [refused]; rfl⟩
          have key' : p.IsKey method' := ⟨genuine', by rw [refused']; rfl⟩
          simp only [act_register key.2, act_register key'.2]
          refine ⟨put_put_perm follows.keys key key' differ type type', fun message others => ?_⟩
          refine decodeEvent_congr fun m found => find_congr fun hashable => ?_
          have key'' : p.IsKey m := ⟨others m found, hashable⟩
          rw [type?_put (keys_put follows.keys key type) key' key'', type?_put follows.keys key key'',
            type?_put (keys_put follows.keys key' type') key key'', type?_put follows.keys key' key'']
          -- No key agrees with both methods, so at most one of the registrations counts.
          cases first : method.agrees m with
          | false => rfl
          | true =>
              have apart : method'.agrees m = false := by
                refine Bool.eq_false_iff.mpr fun second => ?_
                rw [Value.agrees_of_agrees key key' key'' first second] at differ
                cases differ
              rw [apart]
              rfl

/-- After any registrations and dispatches, a message is read as the type that was registered last under
its method. Dispatches and failed registrations leave no trace, and registrations under different methods
do not interfere. -/
theorem dispatch_by_history {actions : List Action}
    (genuine : ∀ action ∈ actions, action.Genuine protocol) :
    let initial := ofProtocol protocol
    let registry := initial.run protocol actions
    run protocol [] (imports protocol) = initial ∧
    (∀ scope event, (scope, event) ∈ protocol.events →
      initial.find (.text event.method) = .ok ⟨scope, event.name⟩) ∧
    Dispatches protocol registry (initial ++ actions.filterMap Action.registration?) ∧
    (∀ message, (registry.act protocol (.dispatch message)).2 = registry) ∧
    (∀ method type fault, method.keyFault? = some fault →
      registry.act protocol (.register method type) = (.fault fault, registry)) ∧
    (∀ method type, protocol.IsKey method → ∃ next,
      registry.act protocol (.register method type) = (.registered type, next) ∧
      ∀ message, (∀ other, message.entry "method" = .ok other →
          protocol.Genuine other ∧ method.agrees other = false) →
        next.decodeEvent protocol message = registry.decodeEvent protocol message) ∧
    (∀ method method' type type', protocol.Genuine method → protocol.Genuine method' →
      method.agrees method' = false →
      let one := registry.run protocol [.register method type, .register method' type']
      let other := registry.run protocol [.register method' type', .register method type]
      one.Perm other ∧ ∀ message, (∀ m, message.entry "method" = .ok m → protocol.Genuine m) →
        one.decodeEvent protocol message = other.decodeEvent protocol message) := by
  have follows := follows_ofProtocol.run genuine
  refine ⟨run_imports, fun scope event member => find_of_mem_events member, follows.dispatches,
    act_dispatch, fun method type fault refused => act_register_fault refused type, ?_, ?_⟩
  · intro method type key
    exact ⟨_, act_register key.2 type, fun message others => follows.decodeEvent_put key type others⟩
  · intro method method' type type' first second differ
    exact follows.run_swap first second differ type type'

-- A method is registered anew, at last under an equal key, and another one cannot be registered.
def renewals : List Action :=
  [ .register (.text "Inspector.detached") ⟨"page", "Frame"⟩, .dispatch .null,
    .register (.list []) ⟨"page", "Frame"⟩,
    .register (.wrapped ⟨"page", "FrameId"⟩ (.text "Inspector.detached")) ⟨"target", "TargetID"⟩ ]

theorem dispatch_by_history_renewals :
    (∀ action ∈ renewals, action.Genuine protocol) ∧
    ((ofProtocol protocol).run protocol renewals).decodeEvent protocol
        (.dict [(.text "method", .text "Inspector.detached"), (.text "params", .int 5)]) =
      .ok (.wrapped ⟨"target", "TargetID"⟩ (.text "5")) := by
  have genuine : ∀ action ∈ renewals, action.Genuine protocol := by
    simp only [renewals, List.forall_mem_cons]
    exact ⟨rfl, trivial, rfl, rfl, fun _ member => by cases member⟩
  have last : latest? (ofProtocol protocol ++ renewals.filterMap Action.registration?)
      (.text "Inspector.detached") = some ⟨"target", "TargetID"⟩ := by
    have recent : renewals.filterMap Action.registration? =
        [(.text "Inspector.detached", ⟨"page", "Frame"⟩)] ++
          [(.wrapped ⟨"page", "FrameId"⟩ (.text "Inspector.detached"), ⟨"target", "TargetID"⟩)] := rfl
    rw [recent, ← List.append_assoc, latest?_concat]
    rfl
  obtain ⟨-, -, dispatches, -⟩ := dispatch_by_history genuine
  exact ⟨genuine, dispatches.registered _ _ _ rfl (protocol.isKey_text _) last⟩

end DevTools.Registry
