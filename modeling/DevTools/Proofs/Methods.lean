import DevTools.Proofs.Catalogue
import DevTools.Proofs.Value.Genuine
import DevTools.Registry
import Mathlib.Data.List.Nodup

namespace DevTools

/-! ## Many texts at once -/

-- Comparing texts two by two takes the kernel minutes for all methods. Their numbers are compared faster,
-- the more so if they are first divided by their last bits.
def textNumber (s : String) : Nat :=
  s.toByteArray.data.toList.foldl (fun n byte => 256 * n + byte.toNat) 0

def areDistinct : (bits : Nat) → List Nat → Bool
  | 0, ns => decide ns.Nodup
  | bits + 1, ns =>
    areDistinct bits (ns.filter (·.testBit bits)) && areDistinct bits (ns.filter (!·.testBit bits))

theorem nodup_of_areDistinct {bits : Nat} {ns : List Nat} (distinct : areDistinct bits ns = true) :
    ns.Nodup := by
  induction bits generalizing ns with
  | zero => exact of_decide_eq_true distinct
  | succ bits ih =>
      obtain ⟨set, unset⟩ := Bool.and_eq_true_iff.mp distinct
      apply List.nodup_iff_count.mpr
      intro n
      cases bit : n.testBit bits with
      | true =>
          rw [← List.count_filter (p := (·.testBit bits)) bit]
          exact List.nodup_iff_count.mp (ih set) n
      | false =>
          rw [← List.count_filter (p := (!·.testBit bits)) (by simp [bit])]
          exact List.nodup_iff_count.mp (ih unset) n

theorem nodup_of_textNumber {α : Type} {text : α → String} {as : List α} {bits : Nat}
    (distinct : areDistinct bits (as.map fun a => textNumber (text a)) = true) :
    (as.map text).Nodup := by
  have numbers := nodup_of_areDistinct distinct
  have composed : (as.map fun a => textNumber (text a)) = (as.map text).map textNumber := by
    rw [List.map_map]
    rfl
  rw [composed] at numbers
  exact numbers.of_map

theorem find?_of_mem_of_nodup {α : Type} {text : α → String} {as : List α}
    (distinct : (as.map text).Nodup) {a : α} (member : a ∈ as) :
    (as.find? fun b => text b == text a) = some a := by
  cases found : as.find? fun b => text b == text a with
  | none =>
      have none := List.find?_eq_none.mp found a member
      simp at none
  | some b =>
      have same : text b = text a := eq_of_beq (List.find?_some (p := fun b => text b == text a) found)
      rw [List.inj_on_of_nodup_map distinct (List.mem_of_find?_eq_some found) member same]

/-! ## Events and commands of a protocol -/

namespace Protocol

variable (p : Protocol)

def events : List (String × Event) :=
  p.domains.flatMap fun d => d.events.map fun event => (d.scope, event)

def commands : List (String × Command) :=
  p.domains.flatMap fun d => d.commands.map fun command => (d.scope, command)

variable {p}

theorem mem_events {scope : String} {event : Event} :
    (scope, event) ∈ p.events ↔ ∃ d ∈ p.domains, d.scope = scope ∧ event ∈ d.events := by
  simp only [events, List.mem_flatMap, List.mem_map, Prod.mk.injEq]
  constructor
  · rintro ⟨d, inside, e, member, equal, rfl⟩
    exact ⟨d, inside, equal, member⟩
  · rintro ⟨d, inside, equal, member⟩
    exact ⟨d, inside, event, member, equal, rfl⟩

theorem mem_commands {scope name : String} {command : Command}
    (declared : p.command? scope name = some command) :
    (scope, command) ∈ p.commands ∧ command.name = name := by
  obtain ⟨d, hd, found⟩ := Option.bind_eq_some_iff.mp declared
  have within : d.scope = scope := eq_of_beq (List.find?_some (p := fun d : Domain => d.scope == scope) hd)
  have named := List.find?_some found
  refine ⟨List.mem_flatMap.mpr ⟨d, List.mem_of_find?_eq_some hd, List.mem_map.mpr ?_⟩, eq_of_beq named⟩
  exact ⟨command, List.mem_of_find?_eq_some found, by rw [within]⟩

theorem registry_eq : Registry.ofProtocol p =
    p.events.map fun entry => (.text entry.2.method, ⟨entry.1, entry.2.name⟩) := by
  simp only [Registry.ofProtocol, events, List.map_flatMap, List.map_map]
  rfl

end Protocol

/-! ## References that do not resolve -/

def unclearParameters (method : String) : List Slot :=
  if method = "Debugger.scriptFailedToParse" then
    [.optional "scriptLanguage" (.one (.selfNamed "debugger" "ScriptLanguage"))]
  else if method = "Debugger.scriptParsed" then
    [ .optional "scriptLanguage" (.one (.selfNamed "debugger" "ScriptLanguage")),
      .optional "debugSymbols" (.one (.selfNamed "debugger" "DebugSymbols")) ]
  else if method = "Network.reportingApiReportAdded" ∨ method = "Network.reportingApiReportUpdated" then
    [.required "report" (.one (.ref "network" "ReportingApiReport"))]
  else []

def unclearReturns (scope name : String) : List Slot :=
  if scope = "network" ∧ name = "load_network_resource" then
    [.required "resource" (.one (.ref "network" "LoadNetworkResourcePageResult"))]
  else []

/-! ## Tables of the catalogue -/

-- The kernel goes through each table once, for all that is read off it below.
theorem event_table :
    (protocol.domains.map (·.scope)).Nodup ∧
    (protocol.domains.all fun d => decide (d.events.map (·.name)).Nodup &&
      d.events.all fun event => d.types.all (·.name != event.name)) = true ∧
    areDistinct 6 (protocol.events.map fun entry => textNumber entry.2.method) = true ∧
    (protocol.events.all fun entry =>
      (entry.2.fields.map (·.toSlot)).filter (!·.shape.isClear) ==
        unclearParameters entry.2.method) = true := by
  decide +kernel

theorem command_table :
    areDistinct 6 (protocol.commands.map fun entry => textNumber entry.2.method) = true ∧
    (protocol.commands.all fun entry =>
      entry.2.returns.filter (!·.shape.isClear) == unclearReturns entry.1 entry.2.name &&
        decide (entry.2.parameters.map (·.key)).Nodup &&
        entry.2.parameters.all fun f => protocol.isWritableShape f.shape) = true := by
  decide +kernel

/-! ## Events -/

theorem event_methods_nodup : (protocol.events.map (·.2.method)).Nodup := by
  obtain ⟨-, -, distinct, -⟩ := event_table
  exact nodup_of_textNumber distinct

theorem event_unclear {scope : String} {event : Event} (member : (scope, event) ∈ protocol.events) :
    (event.fields.map (·.toSlot)).filter (!·.shape.isClear) = unclearParameters event.method := by
  obtain ⟨-, -, -, unclear⟩ := event_table
  exact eq_of_beq (List.all_eq_true.mp unclear _ member)

theorem declaration?_of_mem_events {scope : String} {event : Event}
    (member : (scope, event) ∈ protocol.events) :
    protocol.declaration? ⟨scope, event.name⟩ = some (.event event) := by
  obtain ⟨d, inside, rfl, listed⟩ := Protocol.mem_events.mp member
  obtain ⟨scopes, named, -⟩ := event_table
  obtain ⟨names, others⟩ := Bool.and_eq_true_iff.mp (List.all_eq_true.mp named d inside)
  have located : protocol.domain? d.scope = some d := find?_of_mem_of_nodup scopes inside
  have found : (d.events.find? fun e => e.name == event.name) = some event :=
    find?_of_mem_of_nodup (of_decide_eq_true names) listed
  have fresh : (d.types.find? fun declaration => declaration.name == event.name) = none := by
    apply List.find?_eq_none.mpr
    intro declaration declared
    simpa using List.all_eq_true.mp (List.all_eq_true.mp others event listed) declaration declared
  simp only [Protocol.declaration?, located, Domain.declaration?, Option.bind_eq_bind, Option.bind_some,
    fresh, found]
  rfl

theorem find_of_mem_events {scope : String} {event : Event}
    (member : (scope, event) ∈ protocol.events) :
    (Registry.ofProtocol protocol).find (.text event.method) = .ok ⟨scope, event.name⟩ := by
  have found := find?_of_mem_of_nodup event_methods_nodup member
  simp only [Registry.find, Value.keyFault?, Protocol.registry_eq, List.find?_map, Function.comp_def,
    Value.agrees_text, found]
  rfl

/-! ## Commands -/

theorem command_methods_nodup : (protocol.commands.map (·.2.method)).Nodup :=
  nodup_of_textNumber command_table.1

section

variable {scope : String} {command : Command} (member : (scope, command) ∈ protocol.commands)
include member

theorem command_checked :
    command.returns.filter (!·.shape.isClear) = unclearReturns scope command.name ∧
      (command.parameters.map (·.key)).Nodup ∧
      ∀ field ∈ command.parameters, protocol.isWritableShape field.shape = true := by
  have facts := List.all_eq_true.mp command_table.2 _ member
  simp only [Bool.and_eq_true, decide_eq_true_eq, beq_iff_eq, List.all_eq_true] at facts
  exact ⟨facts.1.1, facts.1.2, facts.2⟩

theorem returns_unclear :
    command.returns.filter (!·.shape.isClear) = unclearReturns scope command.name :=
  (command_checked member).1

theorem parameter_keys_nodup : (command.parameters.map (·.key)).Nodup :=
  (command_checked member).2.1

theorem parameter_writable {field : Field} (inside : field ∈ command.parameters) :
    protocol.isWritableShape field.shape = true :=
  (command_checked member).2.2 field inside

end

end DevTools
