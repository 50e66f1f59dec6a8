import DevTools.Codegen.Comment
import DevTools.Codegen.Spec

/-!
# Corrections

The published specification has four known errors: a reference of the `DOM` domain to itself, a stray
backtick in a description, and two parameters of `Network` events that are not always sent. A part
that does not have the form that its correction expects stops the work; what was corrected before it
stays corrected.
-/

namespace DevTools.Codegen

abbrev Corrected (α : Type) := α × Option Fault

def correctEach {α : Type} (correct : α → Corrected α) : List α → Corrected (List α)
  | [] => ([], none)
  | a :: rest =>
    match correct a with
    | (a', some fault) => (a' :: rest, some fault)
    | (a', none) =>
      let (rest', fault?) := correctEach correct rest
      (a' :: rest', fault?)

def CommandSpec.correct (c : CommandSpec) : Corrected CommandSpec :=
  if c.name.isText "resolveNode" then
    match c.parameters with
    | first :: second :: rest =>
      ({ c with parameters := first :: { second with ref := .text "BackendNodeId" } :: rest }, none)
    | _ => (c, some .indexOutOfRange)
  else (c, none)

def EventSpec.correctDescription (e : EventSpec) : Corrected EventSpec :=
  if e.name.isText "screencastVisibilityChanged" then
    match descriptionText e.description with
    | .ok text =>
      ({ e with description := .text (String.ofList (text.toList.filter (· != backtick))) }, none)
    | .error fault => (e, some fault)
  else (e, none)

def PropertySpec.makeOptional (name : String) (p : PropertySpec) : PropertySpec :=
  if p.name.isText name then { p with optional := .bool true } else p

def EventSpec.makeOptional (event name : String) (e : EventSpec) : EventSpec :=
  if e.name.isText event then { e with parameters := e.parameters.map (·.makeOptional name) } else e

def EventSpec.correctParameters (e : EventSpec) : EventSpec :=
  (e.makeOptional "requestWillBeSent" "redirectHasExtraInfo").makeOptional
    "responseReceived" "hasExtraInfo"

def DomainSpec.correct (d : DomainSpec) : Corrected DomainSpec :=
  if d.domain.isText "DOM" then
    let (commands, fault?) := correctEach CommandSpec.correct d.commands
    ({ d with commands }, fault?)
  else if d.domain.isText "Page" then
    let (events, fault?) := correctEach EventSpec.correctDescription d.events
    ({ d with events }, fault?)
  else if d.domain.isText "Network" then
    ({ d with events := d.events.map EventSpec.correctParameters }, none)
  else (d, none)

def correct (domains : List DomainSpec) : Corrected (List DomainSpec) :=
  correctEach DomainSpec.correct domains

end DevTools.Codegen
