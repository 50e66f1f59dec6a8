import DevTools.Codegen.Correction
import Mathlib.Data.List.Forall2

namespace DevTools.Codegen

/-! ## Going through a list -/

/-- What is known of a correction: the parts it can be made to, what it makes of them, and how it stops
at the others. -/
structure Correction {α : Type} (correct : α → Corrected α) (IsCorrectable : α → Prop)
    (Corrects : α → α → Prop) (Stops : α → α → Fault → Prop) : Prop where
  done : ∀ {a}, IsCorrectable a → (correct a).2 = none
  corrects : ∀ {a}, IsCorrectable a → Corrects a (correct a).1
  again : ∀ {a}, IsCorrectable a → correct (correct a).1 = ((correct a).1, none)
  stops : ∀ {a}, ¬ IsCorrectable a → ∃ a' fault, correct a = (a', some fault) ∧ Stops a a' fault

section Loop

variable {α : Type} {correct : α → Corrected α}

theorem correctEach_of_done {as : List α} (done : ∀ a ∈ as, (correct a).2 = none) :
    correctEach correct as = (as.map fun a => (correct a).1, none) := by
  induction as with
  | nil => rfl
  | cons a rest ih =>
      obtain ⟨here, others⟩ := List.forall_mem_cons.mp done
      have same : correct a = ((correct a).1, none) := Prod.ext rfl here
      rw [correctEach, same]
      simp only [ih others, List.map_cons]

theorem correctEach_of_fault {before : List α} (done : ∀ b ∈ before, (correct b).2 = none) {a a' : α}
    {fault : Fault} (stopped : correct a = (a', some fault)) (after : List α) :
    correctEach correct (before ++ a :: after) =
      ((before.map fun b => (correct b).1) ++ a' :: after, some fault) := by
  induction before with
  | nil => simp [correctEach, stopped]
  | cons b rest ih =>
      obtain ⟨here, others⟩ := List.forall_mem_cons.mp done
      have same : correct b = ((correct b).1, none) := Prod.ext rfl here
      rw [List.cons_append, correctEach, same]
      simp only [ih others, List.map_cons, List.cons_append]

theorem exists_first_not {P : α → Prop} {as : List α} (fails : ¬ ∀ a ∈ as, P a) :
    ∃ before a after, as = before ++ a :: after ∧ (∀ b ∈ before, P b) ∧ ¬ P a := by
  induction as with
  | nil => exact absurd (by simp) fails
  | cons a rest ih =>
      by_cases here : P a
      · have later : ¬ ∀ b ∈ rest, P b := fun others => fails (List.forall_mem_cons.mpr ⟨here, others⟩)
        obtain ⟨before, b, after, rfl, holds, failing⟩ := ih later
        exact ⟨a :: before, b, after, rfl, List.forall_mem_cons.mpr ⟨here, holds⟩, failing⟩
      · exact ⟨[], a, rest, rfl, by simp, here⟩

namespace Correction

variable {IsCorrectable : α → Prop} {Corrects : α → α → Prop} {Stops : α → α → Fault → Prop}
  (c : Correction correct IsCorrectable Corrects Stops)
include c

theorem each_done {as : List α} (correctable : ∀ a ∈ as, IsCorrectable a) :
    correctEach correct as = (as.map fun a => (correct a).1, none) :=
  correctEach_of_done fun a member => c.done (correctable a member)

theorem each_corrects {as : List α} (correctable : ∀ a ∈ as, IsCorrectable a) :
    List.Forall₂ Corrects as (correctEach correct as).1 := by
  rw [c.each_done correctable, List.forall₂_map_right_iff, List.forall₂_same]
  intro a member
  exact c.corrects (correctable a member)

theorem each_again {as : List α} (correctable : ∀ a ∈ as, IsCorrectable a) :
    correctEach correct (correctEach correct as).1 = ((correctEach correct as).1, none) := by
  rw [c.each_done correctable]
  have stable : ∀ b ∈ as.map fun a => (correct a).1, correct b = (b, none) := by
    intro b member
    obtain ⟨a, inside, rfl⟩ := List.mem_map.mp member
    exact c.again (correctable a inside)
  rw [correctEach_of_done fun b member => congrArg Prod.snd (stable b member)]
  have kept := List.map_congr_left fun b member => congrArg Prod.fst (stable b member)
  exact Prod.ext (kept.trans (List.map_id _)) rfl

theorem each_stops {before : List α} (correctable : ∀ b ∈ before, IsCorrectable b) {a : α}
    (failing : ¬ IsCorrectable a) (after : List α) :
    ∃ a' fault, Stops a a' fault ∧ correctEach correct (before ++ a :: after) =
      ((correctEach correct before).1 ++ a' :: after, some fault) := by
  obtain ⟨a', fault, stopped, stops⟩ := c.stops failing
  refine ⟨a', fault, stops, ?_⟩
  rw [c.each_done correctable]
  exact correctEach_of_fault (fun b member => c.done (correctable b member)) stopped after

theorem each_eq_none_iff {as : List α} :
    (correctEach correct as).2 = none ↔ ∀ a ∈ as, IsCorrectable a := by
  constructor
  · intro done
    by_contra fails
    obtain ⟨before, a, after, rfl, correctable, failing⟩ := exists_first_not fails
    obtain ⟨a', fault, -, stopped⟩ := c.each_stops correctable failing after
    rw [stopped] at done
    cases done
  · intro correctable
    rw [c.each_done correctable]

end Correction

end Loop

/-! ## Commands -/

namespace CommandSpec

def IsCorrectable (c : CommandSpec) : Prop :=
  c.name.isText "resolveNode" = true → 2 ≤ c.parameters.length

def Corrects (c c' : CommandSpec) : Prop :=
  if c.name.isText "resolveNode" then
    ∃ first second rest, c.parameters = first :: second :: rest ∧
      c' = { c with parameters := first :: { second with ref := .text "BackendNodeId" } :: rest }
  else c' = c

def Stops (c c' : CommandSpec) (fault : Fault) : Prop :=
  c.name.isText "resolveNode" = true ∧ c.parameters.length < 2 ∧ c' = c ∧ fault = .indexOutOfRange

theorem correct_corrects {c : CommandSpec} (correctable : c.IsCorrectable) :
    c.correct.2 = none ∧ c.Corrects c.correct.1 := by
  unfold correct Corrects
  split
  · rename_i named
    have enough := correctable named
    match found : c.parameters with
    | [] => simp [found] at enough
    | [_] => simp [found] at enough
    | first :: second :: rest => exact ⟨rfl, first, second, rest, rfl, rfl⟩
  · exact ⟨rfl, rfl⟩

theorem correct_of_corrects {c c' : CommandSpec} (corrects : c.Corrects c') : c'.correct = (c', none) := by
  unfold Corrects at corrects
  split at corrects
  · rename_i named
    obtain ⟨first, second, rest, -, rfl⟩ := corrects
    simp [correct, named]
  · rename_i unnamed
    subst corrects
    simp [correct, unnamed]

theorem correct_stops {c : CommandSpec} (failing : ¬ c.IsCorrectable) :
    ∃ c' fault, c.correct = (c', some fault) ∧ c.Stops c' fault := by
  obtain ⟨named, short⟩ := Classical.not_imp.mp failing
  refine ⟨c, .indexOutOfRange, ?_, named, Nat.not_le.mp short, rfl, rfl⟩
  unfold correct
  rw [if_pos named]
  match found : c.parameters with
  | [] => rfl
  | [_] => rfl
  | first :: second :: rest => simp [found] at short

theorem correction : Correction correct IsCorrectable Corrects Stops where
  done correctable := (correct_corrects correctable).1
  corrects correctable := (correct_corrects correctable).2
  again correctable := correct_of_corrects (correct_corrects correctable).2
  stops := correct_stops

end CommandSpec

/-! ## Descriptions of events -/

namespace EventSpec

def IsCorrectable (e : EventSpec) : Prop :=
  e.name.isText "screencastVisibilityChanged" = true → ∃ s, e.description = .text s

def CorrectsDescription (e e' : EventSpec) : Prop :=
  if e.name.isText "screencastVisibilityChanged" then
    ∃ s, e.description = .text s ∧
      e' = { e with description := .text (String.ofList (s.toList.filter (· != backtick))) }
  else e' = e

def Stops (e e' : EventSpec) (fault : Fault) : Prop :=
  e.name.isText "screencastVisibilityChanged" = true ∧ (∀ s, e.description ≠ .text s) ∧ e' = e ∧
    fault = .noAttribute e.description.kindName "replace"

theorem correctDescription_corrects {e : EventSpec} (correctable : e.IsCorrectable) :
    e.correctDescription.2 = none ∧ e.CorrectsDescription e.correctDescription.1 := by
  unfold correctDescription CorrectsDescription
  split
  · rename_i named
    obtain ⟨s, text⟩ := correctable named
    rw [text]
    exact ⟨rfl, s, rfl, rfl⟩
  · exact ⟨rfl, rfl⟩

theorem correctDescription_of_corrects {e e' : EventSpec} (corrects : e.CorrectsDescription e') :
    e'.correctDescription = (e', none) := by
  unfold CorrectsDescription at corrects
  split at corrects
  · rename_i named
    obtain ⟨s, -, rfl⟩ := corrects
    simp [correctDescription, named, descriptionText]
  · rename_i unnamed
    subst corrects
    simp [correctDescription, unnamed]

theorem correctDescription_stops {e : EventSpec} (failing : ¬ e.IsCorrectable) :
    ∃ e' fault, e.correctDescription = (e', some fault) ∧ e.Stops e' fault := by
  obtain ⟨named, untold⟩ := Classical.not_imp.mp failing
  have noText : ∀ s, e.description ≠ .text s := not_exists.mp untold
  refine ⟨e, _, ?_, named, noText, rfl, rfl⟩
  have refused : descriptionText e.description = .error (.noAttribute e.description.kindName "replace") := by
    unfold descriptionText
    split
    · rename_i s text
      exact absurd text (noText s)
    · rfl
  unfold correctDescription
  rw [if_pos named, refused]

theorem descriptionCorrection : Correction correctDescription IsCorrectable CorrectsDescription Stops where
  done correctable := (correctDescription_corrects correctable).1
  corrects correctable := (correctDescription_corrects correctable).2
  again correctable := correctDescription_of_corrects (correctDescription_corrects correctable).2
  stops := correctDescription_stops

end EventSpec

/-! ## Parameters of events -/

theorem isText_of_ne {v : Value} {s r : String} (named : v.isText s = true) (differs : s ≠ r) :
    v.isText r = false := by
  unfold Value.isText at named ⊢
  split at named
  · obtain rfl := eq_of_beq named
    exact beq_false_of_ne differs
  · cases named

namespace EventSpec

def unreliableParameters : List (String × String) :=
  [("requestWillBeSent", "redirectHasExtraInfo"), ("responseReceived", "hasExtraInfo")]

def IsUnreliable (e : EventSpec) (p : PropertySpec) : Prop :=
  ∃ pair ∈ unreliableParameters, e.name.isText pair.1 = true ∧ p.name.isText pair.2 = true

structure CorrectsParameters (e e' : EventSpec) : Prop where
  kept : e' = { e with parameters := e'.parameters }
  parameters : List.Forall₂ (fun p p' =>
    (e.IsUnreliable p → p' = { p with optional := .bool true }) ∧ (¬ e.IsUnreliable p → p' = p))
    e.parameters e'.parameters

theorem correctParameters_eq (e : EventSpec) : ∃ change : PropertySpec → PropertySpec,
    (∀ p, (e.IsUnreliable p → change p = { p with optional := .bool true }) ∧
      (¬ e.IsUnreliable p → change p = p)) ∧
    ∀ parameters, { e with parameters }.correctParameters =
      { e with parameters := parameters.map change } := by
  have made (name : String) (concerned : ∀ p : PropertySpec, e.IsUnreliable p ↔ p.name.isText name = true)
      (p : PropertySpec) : (e.IsUnreliable p → p.makeOptional name = { p with optional := .bool true }) ∧
        (¬ e.IsUnreliable p → p.makeOptional name = p) := by
    rw [concerned]
    exact ⟨fun named => if_pos named, fun unnamed => if_neg unnamed⟩
  cases request : e.name.isText "requestWillBeSent" with
  | true =>
      have response : e.name.isText "responseReceived" = false := isText_of_ne request (by decide)
      refine ⟨(·.makeOptional "redirectHasExtraInfo"), made _ ?_, fun parameters => ?_⟩
      · simp [IsUnreliable, unreliableParameters, request, response]
      · simp [correctParameters, makeOptional, request, response]
  | false =>
      cases response : e.name.isText "responseReceived" with
      | true =>
          refine ⟨(·.makeOptional "hasExtraInfo"), made _ ?_, fun parameters => ?_⟩
          · simp [IsUnreliable, unreliableParameters, request, response]
          · simp [correctParameters, makeOptional, request, response]
      | false =>
          refine ⟨id, fun p => ⟨fun unreliable => ?_, fun _ => rfl⟩, fun parameters => ?_⟩
          · simp [IsUnreliable, unreliableParameters, request, response] at unreliable
          · simp [correctParameters, makeOptional, request, response]

theorem correctParameters_corrects (e : EventSpec) : e.CorrectsParameters e.correctParameters := by
  obtain ⟨change, changes, equal⟩ := e.correctParameters_eq
  rw [equal e.parameters]
  refine ⟨rfl, ?_⟩
  rw [List.forall₂_map_right_iff, List.forall₂_same]
  intro p _
  exact changes p

theorem correctParameters_again (e : EventSpec) :
    e.correctParameters.correctParameters = e.correctParameters := by
  obtain ⟨change, changes, equal⟩ := e.correctParameters_eq
  have twice (p : PropertySpec) : change (change p) = change p := by
    by_cases unreliable : e.IsUnreliable p
    · have once := (changes p).1 unreliable
      have still : e.IsUnreliable (change p) := by
        rw [once]
        exact unreliable
      rw [(changes (change p)).1 still, once]
    · rw [(changes p).2 unreliable, (changes p).2 unreliable]
  rw [equal e.parameters, equal, List.map_map]
  simp [Function.comp_def, twice]

end EventSpec

/-! ## Domains -/

namespace DomainSpec

structure IsCorrectable (d : DomainSpec) : Prop where
  commands : d.domain.isText "DOM" = true → ∀ c ∈ d.commands, c.IsCorrectable
  events : d.domain.isText "Page" = true → ∀ e ∈ d.events, e.IsCorrectable

structure Corrects (d d' : DomainSpec) : Prop where
  kept : d' = { d with commands := d'.commands, events := d'.events }
  commands :
    if d.domain.isText "DOM" then List.Forall₂ CommandSpec.Corrects d.commands d'.commands
    else d'.commands = d.commands
  events :
    if d.domain.isText "Page" then List.Forall₂ EventSpec.CorrectsDescription d.events d'.events
    else if d.domain.isText "Network" then List.Forall₂ EventSpec.CorrectsParameters d.events d'.events
    else d'.events = d.events

/-- The parts before the first one that cannot be corrected are corrected, and nothing else is changed. -/
inductive Stops (d : DomainSpec) : DomainSpec → Fault → Prop
  | command {before before' after : List CommandSpec} {c c' : CommandSpec} {fault : Fault} :
      d.domain.isText "DOM" = true → d.commands = before ++ c :: after →
      List.Forall₂ CommandSpec.Corrects before before' → c.Stops c' fault →
      d.Stops { d with commands := before' ++ c' :: after } fault
  | event {before before' after : List EventSpec} {e e' : EventSpec} {fault : Fault} :
      d.domain.isText "Page" = true → d.events = before ++ e :: after →
      List.Forall₂ EventSpec.CorrectsDescription before before' → e.Stops e' fault →
      d.Stops { d with events := before' ++ e' :: after } fault

theorem correct_dom {d : DomainSpec} (dom : d.domain.isText "DOM" = true) :
    d.correct = ({ d with commands := (correctEach CommandSpec.correct d.commands).1 },
      (correctEach CommandSpec.correct d.commands).2) :=
  if_pos dom

theorem correct_page {d : DomainSpec} (page : d.domain.isText "Page" = true) :
    d.correct = ({ d with events := (correctEach EventSpec.correctDescription d.events).1 },
      (correctEach EventSpec.correctDescription d.events).2) := by
  have notDom := isText_of_ne page (r := "DOM") (by decide)
  simp [correct, notDom, page]

theorem correct_network {d : DomainSpec} (network : d.domain.isText "Network" = true) :
    d.correct = ({ d with events := d.events.map EventSpec.correctParameters }, none) := by
  have notDom := isText_of_ne network (r := "DOM") (by decide)
  have notPage := isText_of_ne network (r := "Page") (by decide)
  simp [correct, notDom, notPage, network]

theorem correct_other {d : DomainSpec} (dom : d.domain.isText "DOM" = false)
    (page : d.domain.isText "Page" = false) (network : d.domain.isText "Network" = false) :
    d.correct = (d, none) := by
  simp [correct, dom, page, network]

theorem kinds (d : DomainSpec) :
    d.domain.isText "DOM" = true ∨ d.domain.isText "Page" = true ∨ d.domain.isText "Network" = true ∨
      (d.domain.isText "DOM" = false ∧ d.domain.isText "Page" = false ∧
        d.domain.isText "Network" = false) := by
  cases d.domain.isText "DOM" <;> cases d.domain.isText "Page" <;> cases d.domain.isText "Network" <;> simp

theorem correct_corrects {d : DomainSpec} (correctable : d.IsCorrectable) :
    d.correct.2 = none ∧ d.Corrects d.correct.1 ∧ d.correct.1.correct = (d.correct.1, none) := by
  rcases d.kinds with dom | page | network | ⟨dom, page, network⟩
  · have each := correctable.commands dom
    have notPage := isText_of_ne dom (r := "Page") (by decide)
    have notNetwork := isText_of_ne dom (r := "Network") (by decide)
    rw [correct_dom dom]
    refine ⟨CommandSpec.correction.each_eq_none_iff.mpr each, ⟨rfl, ?_, ?_⟩, ?_⟩
    · rw [if_pos dom]
      exact CommandSpec.correction.each_corrects each
    · simp [notPage, notNetwork]
    · rw [correct_dom, CommandSpec.correction.each_again each]
      exact dom
  · have each := correctable.events page
    have notDom := isText_of_ne page (r := "DOM") (by decide)
    rw [correct_page page]
    refine ⟨EventSpec.descriptionCorrection.each_eq_none_iff.mpr each, ⟨rfl, ?_, ?_⟩, ?_⟩
    · simp [notDom]
    · rw [if_pos page]
      exact EventSpec.descriptionCorrection.each_corrects each
    · rw [correct_page, EventSpec.descriptionCorrection.each_again each]
      exact page
  · have notDom := isText_of_ne network (r := "DOM") (by decide)
    have notPage := isText_of_ne network (r := "Page") (by decide)
    rw [correct_network network]
    refine ⟨rfl, ⟨rfl, ?_, ?_⟩, ?_⟩
    · simp [notDom]
    · simp only [notPage, network, Bool.false_eq_true, ↓reduceIte]
      rw [List.forall₂_map_right_iff, List.forall₂_same]
      intro e _
      exact e.correctParameters_corrects
    · rw [correct_network]
      · simp [Function.comp_def, EventSpec.correctParameters_again]
      · exact network
  · rw [correct_other dom page network]
    exact ⟨rfl, ⟨rfl, by simp [dom], by simp [page, network]⟩, correct_other dom page network⟩

theorem correct_stops {d : DomainSpec} (failing : ¬ d.IsCorrectable) :
    ∃ d' fault, d.correct = (d', some fault) ∧ d.Stops d' fault := by
  by_cases commands : d.domain.isText "DOM" = true → ∀ c ∈ d.commands, c.IsCorrectable
  · obtain ⟨page, fails⟩ := Classical.not_imp.mp fun events => failing ⟨commands, events⟩
    obtain ⟨before, e, after, split, correctable, incorrectable⟩ := exists_first_not fails
    obtain ⟨e', fault, stops, stopped⟩ :=
      EventSpec.descriptionCorrection.each_stops correctable incorrectable after
    refine ⟨_, fault, ?_, .event page split (EventSpec.descriptionCorrection.each_corrects correctable) stops⟩
    rw [correct_page page, split, stopped]
  · obtain ⟨dom, fails⟩ := Classical.not_imp.mp commands
    obtain ⟨before, c, after, split, correctable, incorrectable⟩ := exists_first_not fails
    obtain ⟨c', fault, stops, stopped⟩ := CommandSpec.correction.each_stops correctable incorrectable after
    refine ⟨_, fault, ?_, .command dom split (CommandSpec.correction.each_corrects correctable) stops⟩
    rw [correct_dom dom, split, stopped]

theorem correction : Correction correct IsCorrectable Corrects Stops where
  done correctable := (correct_corrects correctable).1
  corrects correctable := (correct_corrects correctable).2.1
  again correctable := (correct_corrects correctable).2.2
  stops := correct_stops

end DomainSpec

/-- If all domains can be corrected, each is corrected by itself, and a second time changes nothing. At
the first domain that cannot be corrected the work ends, half done. -/
theorem corrections_in_order (ds : List DomainSpec) :
    ((correct ds).2 = none ↔ ∀ d ∈ ds, d.IsCorrectable) ∧
    ((∀ d ∈ ds, d.IsCorrectable) →
      List.Forall₂ DomainSpec.Corrects ds (correct ds).1 ∧
      correct (correct ds).1 = ((correct ds).1, none) ∧
      (∀ others, (∀ d ∈ others, d ∈ ds) → correct others = (others.map (·.correct.1), none)) ∧
      (∀ others, ds.Perm others → (correct ds).1.Perm (correct others).1) ∧
      ∀ before after, ds = before ++ after →
        correct ds = ((correct before).1 ++ (correct after).1, none)) ∧
    ((correct ds).2 ≠ none → ∃ before d after d' fault, ds = before ++ d :: after ∧
      (∀ b ∈ before, b.IsCorrectable) ∧ ¬ d.IsCorrectable ∧ d.Stops d' fault ∧
      correct ds = ((correct before).1 ++ d' :: after, some fault)) := by
  have separately {ds : List DomainSpec} (correctable : ∀ d ∈ ds, d.IsCorrectable) :
      correct ds = (ds.map (·.correct.1), none) := DomainSpec.correction.each_done correctable
  refine ⟨DomainSpec.correction.each_eq_none_iff, fun correctable => ⟨?_, ?_, ?_, ?_, ?_⟩, ?_⟩
  · exact DomainSpec.correction.each_corrects correctable
  · exact DomainSpec.correction.each_again correctable
  · intro others inside
    exact separately fun d member => correctable d (inside d member)
  · intro others same
    rw [separately correctable, separately fun d member => correctable d (same.mem_iff.mpr member)]
    exact same.map _
  · rintro before after rfl
    rw [separately correctable, separately fun d member => correctable d (List.mem_append_left _ member),
      separately fun d member => correctable d (List.mem_append_right _ member), List.map_append]
  · intro fault
    have fails := mt DomainSpec.correction.each_eq_none_iff.mpr fault
    obtain ⟨before, d, after, rfl, correctable, failing⟩ := exists_first_not fails
    obtain ⟨d', fault, stops, stopped⟩ := DomainSpec.correction.each_stops correctable failing after
    exact ⟨before, d, after, d', fault, rfl, correctable, failing, stops, stopped⟩

def nodeId : PropertySpec where
  name := .text "nodeId"
  description := .null
  type := .null
  ref := .text "NodeId"
  choices := .null
  items := none
  optional := .bool true
  experimental := .bool false
  deprecated := .bool false

def resolveNode : CommandSpec where
  name := .text "resolveNode"
  description := .null
  experimental := .bool false
  deprecated := .bool false
  parameters := [nodeId, { nodeId with name := .text "backendNodeId", ref := .text "DOM.BackendNodeId" }]
  returns := []
  domain := .text "DOM"

def domDomain : DomainSpec where
  domain := .text "DOM"
  description := .null
  experimental := .bool false
  dependencies := .list []
  types := []
  commands := [resolveNode]
  events := []

def shortDomain : DomainSpec :=
  { domDomain with commands := [resolveNode, { resolveNode with parameters := [nodeId] }, resolveNode] }

def screencast : EventSpec where
  name := .text "screencastVisibilityChanged"
  description := .text "Screencast's visibility has `changed."
  deprecated := .bool false
  experimental := .bool true
  parameters := []
  domain := .text "Page"

def pageDomain : DomainSpec :=
  { domDomain with domain := .text "Page", commands := [], events := [screencast] }

theorem corrections_in_order_screencast :
    (∀ d ∈ [domDomain, pageDomain], d.IsCorrectable) ∧
    List.Forall₂ DomainSpec.Corrects [domDomain, pageDomain] (correct [domDomain, pageDomain]).1 ∧
    correct (correct [domDomain, pageDomain]).1 = ((correct [domDomain, pageDomain]).1, none) ∧
    (correct [domDomain, pageDomain]).1.Perm (correct [pageDomain, domDomain]).1 ∧
    correct [domDomain, pageDomain] = ((correct [domDomain]).1 ++ (correct [pageDomain]).1, none) ∧
    (correct [pageDomain, shortDomain, domDomain]).2 = some .indexOutOfRange ∧
    ∃ before d after d' fault, [pageDomain, shortDomain, domDomain] = before ++ d :: after ∧
      (∀ b ∈ before, b.IsCorrectable) ∧ ¬ d.IsCorrectable ∧ d.Stops d' fault ∧
      correct [pageDomain, shortDomain, domDomain] = ((correct before).1 ++ d' :: after, some fault) := by
  have correctable : ∀ d ∈ [domDomain, pageDomain], d.IsCorrectable := by
    refine List.forall_mem_cons.mpr ⟨⟨fun _ => ?_, nofun⟩, List.forall_mem_singleton.mpr ⟨nofun, fun _ => ?_⟩⟩
    · exact List.forall_mem_singleton.mpr fun _ => Nat.le_refl 2
    · exact List.forall_mem_singleton.mpr fun _ => ⟨_, rfl⟩
  obtain ⟨-, done, -⟩ := corrections_in_order [domDomain, pageDomain]
  obtain ⟨corrects, again, -, perm, split⟩ := done correctable
  obtain ⟨-, -, stops⟩ := corrections_in_order [pageDomain, shortDomain, domDomain]
  exact ⟨correctable, corrects, again, perm _ (.swap _ _ _), split [domDomain] [pageDomain] rfl, rfl, stops nofun⟩

end DevTools.Codegen
