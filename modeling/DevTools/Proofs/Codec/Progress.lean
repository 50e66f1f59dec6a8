import DevTools.Exchange
import DevTools.Proofs.Codec.NormalForm
import DevTools.Proofs.Methods

namespace DevTools

def Yields {α : Type} (step : Except Fault α) : (unbound? : Option String) → Prop
  | none => ∃ a, step = .ok a
  | some name => step = .error (.undefinedName name)

theorem Yields.map {α β : Type} {step : Except Fault α} {unbound? : Option String}
    (yields : Yields step unbound?) (f : α → β) : Yields (f <$> step) unbound? := by
  cases unbound? with
  | none =>
      obtain ⟨a, equal⟩ := yields
      exact ⟨f a, by rw [equal]; rfl⟩
  | some name =>
      have failed : step = .error (.undefinedName name) := yields
      rw [failed]
      rfl

theorem decodeSlotsWith_yields {m : Value} {entry : EntryDecoder} {unbound? : Slot → Option String}
    {slots : List Slot} (each : ∀ slot ∈ slots, Yields (decodeSlotWith m entry slot) (unbound? slot)) :
    Yields (decodeSlotsWith m entry slots) (slots.findSome? unbound?) := by
  induction slots with
  | nil => exact ⟨[], rfl⟩
  | cons slot rest ih =>
      have head := each slot List.mem_cons_self
      have tail := ih fun s member => each s (List.mem_cons_of_mem _ member)
      rw [List.findSome?_cons, decodeSlotsWith]
      cases here : unbound? slot with
      | some name =>
          rw [here] at head
          have failed : decodeSlotWith m entry slot = .error (.undefinedName name) := head
          rw [failed]
          rfl
      | none =>
          rw [here] at head
          obtain ⟨v, read⟩ := head
          rw [read]
          exact tail.map (v :: ·)

theorem decodeFieldsWith_eq (m : Value) (entry : EntryDecoder) (fields : List Field) :
    decodeFieldsWith m entry fields =
      (fun values => (fields.map (·.name)).zip values) <$>
        decodeSlotsWith m entry (fields.map (·.toSlot)) := by
  induction fields with
  | nil => rfl
  | cons field rest ih =>
      simp only [decodeFieldsWith, List.map_cons, decodeSlotsWith, ih]
      cases decodeSlotWith m entry field.toSlot with
      | error fault => rfl
      | ok v => cases decodeSlotsWith m entry (rest.map (·.toSlot)) <;> rfl

theorem findSome?_filter {α β : Type} {f : α → Option β} (keep : α → Bool) (as : List α)
    (dropped : ∀ a, keep a = false → f a = none) : as.findSome? f = (as.filter keep).findSome? f := by
  induction as with
  | nil => rfl
  | cons a rest ih =>
      cases kept : keep a with
      | true => rw [List.filter_cons_of_pos kept, List.findSome?_cons, List.findSome?_cons, ih]
      | false =>
          rw [List.filter_cons_of_neg (by simp [kept]), List.findSome?_cons, dropped a kept, ih]

namespace Value

theorem entry?_dict (entries : List (Value × Value)) (key : String) :
    Value.entry? (dict entries) key = lookup? key entries := by
  unfold Value.entry? entry
  simp only [core]
  cases lookup? key entries <;> rfl

end Value

/-! ## Unbound names -/

def Slot.spelled? (slot : Slot) (m : Value) : Option String :=
  slot.shape.unresolved?.filter fun _ => !slot.isOptional || (m.entry? slot.key).isSome

namespace Protocol

variable {p : Protocol}

/-! ## Messages that fit -/

structure Fits (p : Protocol) (slots : List Slot) (entries : List (Value × Value)) : Prop where
  required : ∀ slot ∈ slots, slot.isOptional = false → (Value.lookup? slot.key entries).isSome = true
  conforms : ∀ slot ∈ slots, ∀ v, Value.lookup? slot.key entries = some v → Conforms p slot.shape v

theorem decodeSlot_yields {slot : Slot} {entries : List (Value × Value)}
    (unbound? : Value → Option String) (resolved : slot.shape.unresolved? = none)
    (required : slot.isOptional = false → (Value.lookup? slot.key entries).isSome = true)
    (present : ∀ v, Value.lookup? slot.key entries = some v →
      Yields (p.decodeShape v slot.shape) (unbound? v)) :
    Yields (decodeSlotWith (.dict entries) (p.entryDecoder (.dict entries)) slot)
      ((Value.lookup? slot.key entries).bind unbound?) := by
  cases found : Value.lookup? slot.key entries with
  | none =>
      have isOptional : slot.isOptional = true := by
        cases optional : slot.isOptional with
        | true => rfl
        | false => simpa [found] using required optional
      exact ⟨.null, decodeSlot_of_missing isOptional found⟩
  | some v =>
      rw [decodeSlot_of_found found resolved]
      exact present v found

theorem decodeSlot_exists {slot : Slot} {entries : List (Value × Value)}
    (resolved : slot.shape.unresolved? = none)
    (required : slot.isOptional = false → (Value.lookup? slot.key entries).isSome = true)
    (present : ∀ v, Value.lookup? slot.key entries = some v → ∃ o, p.decodeShape v slot.shape = .ok o) :
    ∃ o, decodeSlotWith (.dict entries) (p.entryDecoder (.dict entries)) slot = .ok o := by
  have read := decodeSlot_yields (fun _ => none) resolved required present
  rwa [Option.bind_fun_none] at read

theorem decodeSlot_yields_spelled {slot : Slot} {entries : List (Value × Value)} {scope : String}
    (unresolved : slot.shape.unresolved? = some scope) :
    Yields (decodeSlotWith (.dict entries) (p.entryDecoder (.dict entries)) slot)
      (slot.spelled? (.dict entries)) := by
  rw [Slot.spelled?, unresolved, Option.filter_some, Value.entry?_dict]
  split
  · rename_i asked
    refine decodeSlot_of_unresolved (fun isOptional => ?_) unresolved
    simpa [isOptional] using asked
  · rename_i silent
    obtain ⟨isOptional, missing⟩ : slot.isOptional = true ∧ Value.lookup? slot.key entries = none := by
      simpa using silent
    exact ⟨.null, decodeSlot_of_missing isOptional missing⟩

/-! ## Clear messages are read -/

theorem decodeItems_exists {item : Item} {items : List Value}
    (each : ∀ v ∈ items, ∃ o, p.decodeItem v item = .ok o) : ∃ os, p.decodeItems items item = .ok os := by
  induction items with
  | nil => exact ⟨[], rfl⟩
  | cons v rest ih =>
      obtain ⟨o, head⟩ := each v List.mem_cons_self
      obtain ⟨os, tail⟩ := ih fun w member => each w (List.mem_cons_of_mem _ member)
      refine ⟨o :: os, ?_⟩
      rw [decodeItems, head, tail]
      rfl

theorem Conforms.decode_ok {shape : Shape} {v : Value} (conforms : Conforms protocol shape v)
    (clear : shape.isClear = true) : ∃ o, protocol.decodeShape v shape = .ok o := by
  induction conforms with
  | @primitive kind v admitted =>
      refine ⟨v, ?_⟩
      rw [decodeShape, decodeItem_eq]
      exact Primitive.convert_of_admits admitted
  | @wrapper ref name base v declared admitted =>
      refine ⟨.wrapped ref.target v.remade, ?_⟩
      rw [decodeShape, decodeItem_wrapper (Reference.selfNamed_of_isClear clear) declared,
        Base.convert_of_conforms admitted]
      rfl
  | @member ref name members wire declared listed =>
      obtain ⟨member, canonical⟩ := exists_canonicalMember listed
      refine ⟨.member ref.target member wire, ?_⟩
      rw [decodeShape, decodeItem_enumeration (Reference.selfNamed_of_isClear clear) declared,
        decodeMember_text canonical]
  | @record ref name fields entries declared required _ ih =>
      have found : protocol.fields? ref.target = some fields := by simp only [fields?, declared]
      obtain ⟨values, read⟩ := decodeFieldsWith_exists fun field inside => by
        have below := isClear_of_reference clear declared inside
        exact decodeSlot_exists (Shape.unresolved?_of_isClear below) (required field inside)
          fun v present => ih field inside v present below
      refine ⟨.object ref.target values none, ?_⟩
      rw [decodeShape, decodeItem_object (Reference.selfNamed_of_isClear clear) found, read]
      rfl
  | @list item items _ ih =>
      obtain ⟨os, read⟩ := decodeItems_exists fun v inside => ih v inside clear
      refine ⟨.list os, ?_⟩
      rw [decodeShape, decodeAll, read]
      rfl

/-! ## References that do not resolve -/

variable (p) in
def spelledIn? (shape : Shape) (v : Value) : Option String :=
  match shape with
  | .one (.reference ref) =>
    match p.declaration? ref.target with
    | some (.record _ fields) => (fields.map (·.toSlot)).findSome? (·.spelled? v)
    | _ => none
  | _ => none

variable (p) in
/-- The name that reading a slot ends on: its own, or that of the record it refers to. -/
def unbound? (slot : Slot) (m : Value) : Option String :=
  slot.spelled? m <|> (m.entry? slot.key).bind (p.spelledIn? slot.shape)

theorem spelled?_of_isClear {slot : Slot} (clear : slot.shape.isClear = true) (m : Value) :
    slot.spelled? m = none := by
  rw [Slot.spelled?, Shape.unresolved?_of_isClear clear, Option.filter_none]

theorem spelledIn?_of_isClear {shape : Shape} (clear : shape.isClear = true) (v : Value) :
    protocol.spelledIn? shape v = none := by
  unfold spelledIn?
  split
  · rename_i ref
    split
    · rename_i name fields declared
      apply List.findSome?_eq_none_iff.mpr
      intro slot member
      obtain ⟨field, inside, rfl⟩ := List.mem_map.mp member
      exact spelled?_of_isClear (isClear_of_reference clear declared inside) v
    · rfl
  · rfl

theorem unbound?_of_resolved {slot : Slot} (resolved : slot.shape.unresolved? = none) (m : Value) :
    p.unbound? slot m = (m.entry? slot.key).bind (p.spelledIn? slot.shape) := by
  rw [unbound?, Slot.spelled?, resolved]
  rfl

theorem unbound?_of_unresolved {slot : Slot} {scope : String}
    (unresolved : slot.shape.unresolved? = some scope) (m : Value) :
    p.unbound? slot m = slot.spelled? m := by
  rw [unbound?, Slot.spelled?, unresolved, Option.filter_some]
  split
  · rfl
  · rename_i silent
    have missing : m.entry? slot.key = none := by
      simp only [Bool.or_eq_true, not_or, Bool.not_eq_true, Option.isSome_eq_false_iff,
        Option.isNone_iff_eq_none] at silent
      exact silent.2
    rw [missing]
    rfl

theorem unbound?_of_isClear {slot : Slot} (clear : slot.shape.isClear = true) (m : Value) :
    protocol.unbound? slot m = none := by
  have inner : protocol.spelledIn? slot.shape = fun _ => none := funext (spelledIn?_of_isClear clear)
  rw [unbound?_of_resolved (Shape.unresolved?_of_isClear clear), inner, Option.bind_fun_none]

theorem spelled?_optional_selfNamed (key domain name : String) (m : Value) :
    Slot.spelled? (.optional key (.one (.selfNamed domain name))) m =
      if (m.entry? key).isSome then some domain else none := by
  simp [Slot.spelled?, Slot.optional, Item.selfNamed, Shape.unresolved?, Option.filter_some]

theorem Conforms.decode_yields {ref : Reference} {v : Value} (resolved : ref.selfNamed = false)
    (conforms : Conforms protocol (.one (.reference ref)) v) :
    Yields (protocol.decodeShape v (.one (.reference ref)))
      (protocol.spelledIn? (.one (.reference ref)) v) := by
  cases selfNaming : isSelfNaming ref.target with
  | false =>
      have clear : (Shape.one (.reference ref)).isClear = true := by
        simp [Shape.isClear, Shape.item, Reference.isClear, resolved, selfNaming]
      rw [spelledIn?_of_isClear clear]
      exact conforms.decode_ok clear
  | true =>
      obtain ⟨name, fields, declared⟩ := record_of_isSelfNaming selfNaming
      cases conforms with
      | wrapper wrapper => simp [declared] at wrapper
      | member enumeration => simp [declared] at enumeration
      | @record _ _ _ entries record required parts =>
          rw [declared, Option.some.injEq, Declaration.record.injEq] at record
          obtain ⟨-, rfl⟩ := record
          have found : protocol.fields? ref.target = some fields := by simp only [fields?, declared]
          have each : ∀ slot ∈ fields.map (·.toSlot),
              Yields (decodeSlotWith (.dict entries) (protocol.entryDecoder (.dict entries)) slot)
                (slot.spelled? (.dict entries)) := by
            intro slot member
            obtain ⟨field, inside, rfl⟩ := List.mem_map.mp member
            rcases clear_or_unresolved declared inside with clear | ⟨⟨unresolved, -⟩, -⟩
            · rw [spelled?_of_isClear clear]
              exact decodeSlot_exists (Shape.unresolved?_of_isClear clear) (required field inside)
                fun v present => (parts field inside v present).decode_ok clear
            · exact decodeSlot_yields_spelled unresolved
          have read := decodeSlotsWith_yields each
          rw [decodeShape, decodeItem_object resolved found, decodeFieldsWith_eq]
          simp only [spelledIn?, declared]
          exact (read.map _).map _

theorem Fits.yields {slots : List Slot} {entries : List (Value × Value)}
    (fits : Fits protocol slots entries)
    (single : ∀ slot ∈ slots, slot.shape.isClear = true ∨ ∃ ref, slot.shape = .one (.reference ref)) :
    Yields (protocol.decodeSlots slots (.dict entries))
      (slots.findSome? fun slot => protocol.unbound? slot (.dict entries)) := by
  refine decodeSlotsWith_yields fun slot member => ?_
  rcases single slot member with clear | ⟨ref, equal⟩
  · rw [unbound?_of_isClear clear]
    exact decodeSlot_exists (Shape.unresolved?_of_isClear clear) (fits.required slot member)
      fun v present => (fits.conforms slot member v present).decode_ok clear
  · cases named : ref.selfNamed with
    | true =>
        have unresolved : slot.shape.unresolved? = some ref.target.domain := by
          simp [equal, Shape.unresolved?, named]
        rw [unbound?_of_unresolved unresolved]
        exact decodeSlot_yields_spelled unresolved
    | false =>
        have resolved : slot.shape.unresolved? = none := by simp [equal, Shape.unresolved?, named]
        rw [unbound?_of_resolved resolved, Value.entry?_dict]
        refine decodeSlot_yields _ resolved (fits.required slot member) fun v present => ?_
        have conforms := fits.conforms slot member v present
        rw [equal] at conforms ⊢
        exact conforms.decode_yields named

end Protocol

/-! ## Events and commands -/

def unboundInEvent? (method : String) (params : Value) : Option String :=
  if method = "Debugger.scriptFailedToParse" then
    if (params.entry? "scriptLanguage").isSome then some "debugger" else none
  else if method = "Debugger.scriptParsed" then
    if (params.entry? "scriptLanguage").isSome || (params.entry? "debugSymbols").isSome then
      some "debugger"
    else none
  else if method = "Network.reportingApiReportAdded" ∨ method = "Network.reportingApiReportUpdated" then
    some "network"
  else none

def unboundInResponse? (scope name : String) (response : Value) : Option String :=
  if scope = "network" ∧ name = "load_network_resource" ∧
      ((response.entry? "resource").bind fun resource => resource.entry? "headers").isSome then
    some "network"
  else none

open Protocol

theorem findSome?_unbound {slots : List Slot} (m : Value) :
    slots.findSome? (protocol.unbound? · m) =
      (slots.filter (!·.shape.isClear)).findSome? (protocol.unbound? · m) := by
  refine findSome?_filter _ slots fun slot clear => unbound?_of_isClear ?_ m
  simpa using clear

theorem single_of_unclear {slots others : List Slot}
    (unclear : slots.filter (!·.shape.isClear) = others)
    (single : ∀ slot ∈ others, ∃ ref, slot.shape = .one (.reference ref)) :
    ∀ slot ∈ slots, slot.shape.isClear = true ∨ ∃ ref, slot.shape = .one (.reference ref) := by
  intro slot member
  cases clear : slot.shape.isClear with
  | true => exact .inl rfl
  | false =>
      have kept : slot ∈ slots.filter (!·.shape.isClear) := List.mem_filter.mpr ⟨member, by simp [clear]⟩
      rw [unclear] at kept
      exact .inr (single slot kept)

theorem spelledIn?_report (v : Value) :
    protocol.spelledIn? (.one (.ref "network" "ReportingApiReport")) v = some "network" :=
  rfl

theorem spelledIn?_loadResult (v : Value) :
    protocol.spelledIn? (.one (.ref "network" "LoadNetworkResourcePageResult")) v =
      if (v.entry? "headers").isSome then some "network" else none := by
  have declared : protocol.declaration? ⟨"network", "LoadNetworkResourcePageResult"⟩ =
      some (.record _ _) := rfl
  simp only [spelledIn?, Item.ref, declared]
  rw [findSome?_filter (fun slot => !slot.shape.isClear) _ fun slot clear =>
    spelled?_of_isClear (by simpa using clear) v]
  -- Of the fields of the record only the headers are not clear.
  show List.findSome? (·.spelled? v) [Slot.optional "headers" (.one (.selfNamed "network" "Headers"))] = _
  rw [List.findSome?_singleton, spelled?_optional_selfNamed]

theorem findSome?_event {scope : String} {event : Event} {entries : List (Value × Value)}
    (member : (scope, event) ∈ protocol.events)
    (fits : Fits protocol (event.fields.map (·.toSlot)) entries) :
    (event.fields.map (·.toSlot)).findSome? (protocol.unbound? · (.dict entries)) =
      unboundInEvent? event.method (.dict entries) := by
  have unclear := event_unclear member
  have reported : ∀ slot ∈ unclearParameters event.method, slot.isOptional = false →
      (Value.entry? (.dict entries) slot.key).isSome = true := by
    intro slot listed required
    rw [← unclear] at listed
    rw [Value.entry?_dict]
    exact fits.required slot (List.mem_filter.mp listed).1 required
  rw [findSome?_unbound, unclear]
  unfold unclearParameters at reported ⊢
  unfold unboundInEvent?
  split
  · rw [List.findSome?_singleton, unbound?_of_unresolved rfl, spelled?_optional_selfNamed]
  · split
    · rw [List.findSome?_cons, List.findSome?_singleton, unbound?_of_unresolved rfl,
        unbound?_of_unresolved rfl, spelled?_optional_selfNamed, spelled?_optional_selfNamed]
      cases (Value.entry? (.dict entries) "scriptLanguage").isSome <;> rfl
    · split
      · rename_i parsed failed reporting
        simp only [parsed, failed, reporting, ↓reduceIte, List.forall_mem_singleton] at reported
        obtain ⟨v, found⟩ := Option.isSome_iff_exists.mp (reported rfl)
        rw [List.findSome?_singleton, unbound?_of_resolved rfl, found]
        exact spelledIn?_report v
      · rfl

theorem findSome?_response {scope : String} {command : Command} (response : Value)
    (member : (scope, command) ∈ protocol.commands) :
    command.returns.findSome? (protocol.unbound? · response) =
      unboundInResponse? scope command.name response := by
  rw [findSome?_unbound, returns_unclear member]
  unfold unclearReturns unboundInResponse?
  by_cases loading : scope = "network" ∧ command.name = "load_network_resource"
  · rw [if_pos loading, List.findSome?_singleton, unbound?_of_resolved rfl]
    simp only [loading.1, loading.2, true_and]
    cases found : response.entry? "resource" with
    | none => simp [Slot.required, found]
    | some v =>
        have inner := spelledIn?_loadResult v
        simpa [Slot.required, found] using inner
  · rw [if_neg loading, if_neg fun h => loading ⟨h.1, h.2.1⟩]
    rfl

theorem single_unclearParameters (method : String) :
    ∀ slot ∈ unclearParameters method, ∃ ref, slot.shape = .one (.reference ref) := by
  unfold unclearParameters
  split
  · simp [Slot.optional, Item.selfNamed]
  · split
    · simp [Slot.optional, Item.selfNamed]
    · split <;> simp [Slot.required, Item.ref]

theorem single_unclearReturns (scope name : String) :
    ∀ slot ∈ unclearReturns scope name, ∃ ref, slot.shape = .one (.reference ref) := by
  unfold unclearReturns
  split <;> simp [Slot.required, Item.ref]

def eventMessage (method : String) (params : Value) : Value :=
  .dict [(.text "method", .text method), (.text "params", params)]

theorem decodeEvent_eq {scope : String} {event : Event} (params : Value)
    (member : (scope, event) ∈ protocol.events) :
    (Registry.ofProtocol protocol).decodeEvent protocol (eventMessage event.method params) =
      (.object ⟨scope, event.name⟩ · none) <$>
        decodeFieldsWith params (protocol.entryDecoder params) event.fields := by
  have method : (eventMessage event.method params).entry "method" = .ok (.text event.method) := rfl
  have parameters : (eventMessage event.method params).entry "params" = .ok params := rfl
  have fields : protocol.fields? ⟨scope, event.name⟩ = some event.fields := by
    simp only [fields?, declaration?_of_mem_events member]
  have decoded : protocol.decode ⟨scope, event.name⟩ params = _ :=
    @decodeItem_object protocol ⟨⟨scope, event.name⟩, false⟩ _ rfl fields params
  rw [← decoded]
  simp only [Registry.decodeEvent, Registry.route, method, parameters, bind, Except.bind,
    find_of_mem_events member]
  rfl

theorem decodeEvent_yields {scope : String} {event : Event} {entries : List (Value × Value)}
    (member : (scope, event) ∈ protocol.events)
    (fits : Fits protocol (event.fields.map (·.toSlot)) entries) :
    Yields (decodeFieldsWith (.dict entries) (protocol.entryDecoder (.dict entries)) event.fields)
      (unboundInEvent? event.method (.dict entries)) := by
  have read := fits.yields (single_of_unclear (event_unclear member)
    (single_unclearParameters event.method))
  rw [findSome?_event member fits] at read
  rw [decodeFieldsWith_eq]
  exact read.map _

theorem result_yields {scope : String} {command : Command} {entries : List (Value × Value)}
    (member : (scope, command) ∈ protocol.commands) (fits : Fits protocol command.returns entries) :
    Yields (command.result protocol (.dict entries))
      (unboundInResponse? scope command.name (.dict entries)) := by
  have read := fits.yields (single_of_unclear (returns_unclear member)
    (single_unclearReturns scope command.name))
  rw [findSome?_response _ member] at read
  exact read.map Command.resultOf

theorem resume_called {p : Protocol} {command : Command} {arguments : List (String × Value)}
    {message : Value} {exchange : Exchange}
    (sent : Exchange.resume p .null (.called command arguments) = (.request message, exchange)) :
    exchange = .requested command := by
  simp only [Exchange.resume, Value.isNull, ↓reduceIte] at sent
  split at sent <;> cases sent
  rfl

def Fault.IsUnbound (fault : Fault) (scope : String) : Prop :=
  fault.kind = .name ∧ fault.message = "name " ++ quoteName scope ++ " is not defined"

/-- Every registered event and every command read what conforms, unless a reference on the way does not
resolve. -/
theorem conforming_messages_read :
    (∀ method type, (Value.text method, type) ∈ Registry.ofProtocol protocol →
      ∃ event, protocol.declaration? type = some (.event event) ∧ event.method = method ∧
        ∀ entries, Fits protocol (event.fields.map (·.toSlot)) entries →
          let read := (Registry.ofProtocol protocol).decodeEvent protocol
            (eventMessage method (.dict entries))
          (unboundInEvent? method (.dict entries) = none →
            ∃ values, read = .ok (.object type values none)) ∧
          ∀ scope, unboundInEvent? method (.dict entries) = some scope →
            ∃ fault, read = .error fault ∧ fault.IsUnbound scope) ∧
    (∀ scope name command arguments message exchange entries,
      protocol.command? scope name = some command →
      Exchange.resume protocol .null (.called command arguments) = (.request message, exchange) →
      Fits protocol command.returns entries →
        (unboundInResponse? scope name (.dict entries) = none →
          ∃ result, exchange.resume protocol (.dict entries) = (.result result, .finished)) ∧
        ∀ unbound, unboundInResponse? scope name (.dict entries) = some unbound →
          ∃ fault, exchange.resume protocol (.dict entries) = (.fault fault, .finished) ∧
            fault.IsUnbound unbound) := by
  constructor
  · intro method type registered
    rw [registry_eq] at registered
    obtain ⟨⟨scope, event⟩, member, equal⟩ := List.mem_map.mp registered
    cases equal
    refine ⟨event, declaration?_of_mem_events member, rfl, fun entries fits => ?_⟩
    have yields := decodeEvent_yields member fits
    simp only [decodeEvent_eq _ member]
    constructor
    · intro bound
      rw [bound] at yields
      obtain ⟨values, read⟩ := yields
      exact ⟨values, by rw [read]; rfl⟩
    · intro name unbound
      rw [unbound] at yields
      have failed : decodeFieldsWith _ _ event.fields = .error (.undefinedName name) := yields
      exact ⟨.undefinedName name, by rw [failed]; rfl, rfl, rfl⟩
  · intro scope name command arguments message exchange entries declared sent fits
    obtain ⟨member, rfl⟩ := mem_commands declared
    obtain rfl := resume_called sent
    have yields := result_yields member fits
    constructor
    · intro bound
      rw [bound] at yields
      obtain ⟨result, read⟩ := yields
      exact ⟨result, by simp only [Exchange.resume, read]⟩
    · intro name unbound
      rw [unbound] at yields
      have failed : command.result protocol (.dict entries) = .error (.undefinedName name) := yields
      exact ⟨.undefinedName name, by simp only [Exchange.resume, failed], rfl, rfl⟩

def loadedWithHeaders : List (Value × Value) :=
  [(.text "resource", .dict [(.text "success", .bool true), (.text "headers", .dict [])])]

theorem loadedWithHeaders_fits :
    Fits protocol [.required "resource" (.one (.ref "network" "LoadNetworkResourcePageResult"))]
      loadedWithHeaders := by
  constructor
  · simp only [List.forall_mem_singleton]
    exact fun _ => rfl
  · simp only [List.forall_mem_singleton]
    rintro v ⟨⟩
    refine .record rfl (by decide) ?_
    simp only [List.forall_mem_cons]
    refine ⟨?_, ?_, ?_, ?_, ?_, ?_, fun _ h => by cases h⟩
    · rintro v ⟨⟩
      exact .primitive rfl
    iterate 4 exact fun v missing => by cases missing
    · rintro v ⟨⟩
      exact .wrapper rfl rfl

def detached : Event :=
  { name := "Detached", method := "Inspector.detached", fields := [.required "reason" "reason" (.one .text)] }

theorem detached_registered :
    (Value.text "Inspector.detached", ⟨"inspector", "Detached"⟩) ∈ Registry.ofProtocol protocol := by
  rw [registry_eq]
  have declared : ("inspector", detached) ∈ protocol.events := by
    have listed : Domain.Inspector.domain ∈ protocol.domains := List.mem_of_getElem? (i := 23) rfl
    exact List.mem_flatMap.mpr ⟨Domain.Inspector.domain, listed, .head _⟩
  exact List.mem_map_of_mem declared

theorem conforming_messages_read_detached :
    (Fits protocol (detached.fields.map (·.toSlot)) [(.text "reason", .text "closed")] ∧
      ∃ values, (Registry.ofProtocol protocol).decodeEvent protocol
          (eventMessage "Inspector.detached" (.dict [(.text "reason", .text "closed")])) =
        .ok (.object ⟨"inspector", "Detached"⟩ values none)) ∧
    ∃ command message exchange fault,
      protocol.command? "network" "load_network_resource" = some command ∧
      Exchange.resume protocol .null (.called command
        [("url", .text "/"), ("options", .object ⟨"network", "LoadNetworkResourceOptions"⟩
          [("disable_cache", .bool true), ("include_credentials", .bool false)] none)]) =
        (.request message, exchange) ∧
      Fits protocol command.returns loadedWithHeaders ∧
      exchange.resume protocol (.dict loadedWithHeaders) = (.fault fault, .finished) ∧
      fault.IsUnbound "network" := by
  have fits : Fits protocol (detached.fields.map (·.toSlot)) [(.text "reason", .text "closed")] := by
    constructor
    · simp only [detached, List.map_cons, List.map_nil, List.forall_mem_singleton]
      exact fun _ => rfl
    · simp only [detached, List.map_cons, List.map_nil, List.forall_mem_singleton]
      rintro v ⟨⟩
      exact .primitive rfl
  refine ⟨⟨fits, ?_⟩, ?_⟩
  · obtain ⟨event, declared, -, reads⟩ :=
      conforming_messages_read.1 "Inspector.detached" ⟨"inspector", "Detached"⟩ detached_registered
    have known : protocol.declaration? ⟨"inspector", "Detached"⟩ = some (.event detached) := rfl
    rw [known, Option.some.injEq, Declaration.event.injEq] at declared
    subst declared
    exact (reads _ fits).1 rfl
  · obtain ⟨fault, failed, unbound⟩ := (conforming_messages_read.2 "network" "load_network_resource" _
      [("url", .text "/"), ("options", .object ⟨"network", "LoadNetworkResourceOptions"⟩
        [("disable_cache", .bool true), ("include_credentials", .bool false)] none)]
      _ _ loadedWithHeaders rfl rfl loadedWithHeaders_fits).2 "network" rfl
    exact ⟨_, _, _, fault, rfl, rfl, loadedWithHeaders_fits, failed, unbound⟩

end DevTools
