import DevTools.Proofs.Codec.Requests

namespace DevTools

/-! ## Calls that bind -/

namespace Signature

def reached (s : Signature) (count : Nat) : List String :=
  s.parameters.take count

def arguments (s : Signature) (positional : List Value) (named : List (String × Value)) :
    List (String × Value) :=
  s.parameters.zip positional ++ named

theorem keys_zip (names : List String) (values : List Value) :
    (names.zip values).map (·.1) = names.take values.length := by
  induction names generalizing values with
  | nil => simp
  | cons name names ih =>
      cases values with
      | nil => rfl
      | cons v values => rw [List.zip_cons_cons, List.map_cons, ih, List.length_cons, List.take_succ_cons]

theorem lookup_arguments_eq_none {s : Signature} {positional : List Value} {named : List (String × Value)}
    {name : String} : (s.arguments positional named).lookup name = none ↔
      name ∉ s.reached positional.length ∧ name ∉ named.map (·.1) := by
  rw [reached, ← keys_zip, ← not_or, ← List.mem_append, ← List.map_append, ← arguments,
    List.lookup_eq_none_iff]
  simp only [bne_iff_ne, List.mem_map, not_exists, not_and]
  exact forall₂_congr fun pair _ => ne_comm

theorem kind_of_checkNamed {s : Signature} {given : List String} {named : List (String × Value)}
    {fault : Fault} (refused : s.checkNamed given named = .error fault) : fault.kind = .type := by
  induction named with
  | nil => cases refused
  | cons argument rest ih =>
      rw [checkNamed] at refused
      split at refused
      · cases refused
        rfl
      · split at refused
        · exact ih refused
        · cases refused
          rfl

theorem missing_isEmpty {s : Signature} {positional : List Value} {named : List (String × Value)} :
    (s.required.filter fun name => ((s.arguments positional named).lookup name).isNone).isEmpty ↔
      ∀ name ∈ s.required, name ∈ s.reached positional.length ∨ name ∈ named.map (·.1) := by
  simp only [List.isEmpty_iff, List.filter_eq_nil_iff, Option.isNone_iff_eq_none,
    lookup_arguments_eq_none, not_and_or, not_not]

theorem bind_eq (s : Signature) (positional : List Value) (named : List (String × Value)) :
    s.bind positional named = s.checkNamed (s.reached positional.length) named >>= fun _ =>
      if s.parameters.length < positional.length then
        .error (.surplusArguments s.function (s.required.length + s.receivers)
          (s.parameters.length + s.receivers) (positional.length + s.receivers)
          (named.filter fun argument => s.namedOnly.contains argument.1).length)
      else if (s.required.filter fun name => ((s.arguments positional named).lookup name).isNone).isEmpty then
        .ok ((s.parameters ++ s.namedOnly).map fun name =>
          (name, ((s.arguments positional named).lookup name).getD .null))
      else .error (.missingArguments s.function
        (s.required.filter fun name => ((s.arguments positional named).lookup name).isNone)) := by
  rw [reached, ← keys_zip]
  rfl

theorem kind_of_bind {s : Signature} {positional : List Value} {named : List (String × Value)}
    {fault : Fault} (refused : s.bind positional named = .error fault) : fault.kind = .type := by
  rw [bind_eq] at refused
  cases checked : s.checkNamed (s.reached positional.length) named with
  | error first =>
      rw [checked] at refused
      cases refused
      exact kind_of_checkNamed checked
  | ok =>
      simp only [checked, Bind.bind, Except.bind] at refused
      split at refused
      · cases refused
        rfl
      · split at refused
        · cases refused
        · cases refused
          rfl

end Signature

namespace Command

structure Fits (c : Command) (positional : List Value) (named : List (String × Value)) : Prop where
  known : ∀ argument ∈ named, argument.1 ∈ c.signature.parameters
  once : ∀ argument ∈ named, argument.1 ∉ c.signature.reached positional.length
  room : positional.length ≤ c.signature.parameters.length
  complete : ∀ name ∈ c.signature.required,
    name ∈ c.signature.reached positional.length ∨ name ∈ named.map (·.1)

theorem receiver_signature (c : Command) : c.signature.receiver = none :=
  rfl

theorem namedOnly_signature (c : Command) : c.signature.namedOnly = [] :=
  rfl

theorem checkNamed_ok {c : Command} {given : List String} {named : List (String × Value)} :
    c.signature.checkNamed given named = .ok () ↔
      (∀ argument ∈ named, argument.1 ∈ c.signature.parameters) ∧
        ∀ argument ∈ named, argument.1 ∉ given := by
  induction named with
  | nil => simp [Signature.checkNamed]
  | cons argument rest ih =>
      simp only [Signature.checkNamed, receiver_signature, namedOnly_signature, List.forall_mem_cons]
      by_cases repeated : argument.1 ∈ given
      · simp [repeated]
      · by_cases fits : argument.1 ∈ c.signature.parameters
        · simp [repeated, fits, ih]
        · simp [repeated, fits]

theorem bind_ok_iff {c : Command} {positional : List Value} {named arguments : List (String × Value)} :
    c.signature.bind positional named = .ok arguments ↔ c.Fits positional named ∧
      arguments = c.signature.parameters.map fun name =>
        (name, ((c.signature.arguments positional named).lookup name).getD .null) := by
  rw [Signature.bind_eq, bind_ok]
  constructor
  · rintro ⟨_, checked, bound⟩
    obtain ⟨known, once⟩ := checkNamed_ok.mp checked
    split at bound
    · cases bound
    · rename_i room
      split at bound
      · rename_i complete
        cases bound
        refine ⟨⟨known, once, Nat.not_lt.mp room, Signature.missing_isEmpty.mp complete⟩, ?_⟩
        rw [namedOnly_signature, List.append_nil]
      · cases bound
  · rintro ⟨fits, rfl⟩
    refine ⟨(), checkNamed_ok.mpr ⟨fits.known, fits.once⟩, ?_⟩
    rw [if_neg (Nat.not_lt.mpr fits.room), if_pos (Signature.missing_isEmpty.mpr fits.complete),
      namedOnly_signature, List.append_nil]

theorem start_ok_iff {c : Command} {positional : List Value} {named : List (String × Value)} :
    (∃ e, Exchange.start c positional named = .ok e) ↔ c.Fits positional named := by
  constructor
  · rintro ⟨e, called⟩
    obtain ⟨arguments, bound, -⟩ := bind_ok.mp called
    exact (bind_ok_iff.mp bound).1
  · intro fits
    exact ⟨_, bind_ok.mpr ⟨_, bind_ok_iff.mpr ⟨fits, rfl⟩, rfl⟩⟩

theorem start_refused {c : Command} {positional : List Value} {named : List (String × Value)}
    (misfit : ¬ c.Fits positional named) :
    ∃ fault, Exchange.start c positional named = .error fault ∧ fault.kind = .type := by
  cases bound : c.signature.bind positional named with
  | ok arguments => exact absurd (bind_ok_iff.mp bound).1 misfit
  | error fault =>
      refine ⟨fault, ?_, Signature.kind_of_bind bound⟩
      rw [Exchange.start, bound]
      rfl

end Command

/-! ## Ways of making a call -/

namespace Signature

structure Assignment (s : Signature) where
  value? : String → Option Value
  required : ∀ name ∈ s.required, (value? name).isSome

namespace Assignment

def value {s : Signature} (a : s.Assignment) (name : String) : Value :=
  (a.value? name).getD .null

def arguments {s : Signature} (a : s.Assignment) : List (String × Value) :=
  s.parameters.map fun name => (name, a.value name)

end Assignment

/-- A way to call with an assignment: the first parameters go by position and others by name, in any
order. Only what is optional and null can be left out. -/
structure Way {s : Signature} (a : s.Assignment) where
  count : Nat
  names : List String
  room : count ≤ s.parameters.length
  fresh : ∀ name ∈ names, name ∈ s.parameters ∧ name ∉ s.reached count
  omitted : ∀ name ∈ s.parameters, name ∉ s.reached count → name ∉ names →
    name ∉ s.required ∧ a.value name = .null

namespace Way

variable {s : Signature} {a : s.Assignment}

-- Leaving out nothing.
def full (count : Nat) (names : List String) (room : count ≤ s.parameters.length)
    (fresh : ∀ name ∈ names, name ∈ s.parameters ∧ name ∉ s.reached count)
    (given : ∀ name ∈ s.parameters, name ∉ s.reached count → name ∈ names) : Way a :=
  { count, names, room, fresh,
    omitted := fun name member unreached unnamed => absurd (given name member unreached) unnamed }

instance : Inhabited (Way a) where
  default := full 0 s.parameters (Nat.zero_le _) (fun _ member => ⟨member, List.not_mem_nil⟩)
    fun _ member _ => member

def positional (way : Way a) : List Value :=
  (s.reached way.count).map a.value

def named (way : Way a) : List (String × Value) :=
  way.names.map fun name => (name, a.value name)

theorem length_positional (way : Way a) : way.positional.length = way.count := by
  rw [positional, List.length_map, reached, List.length_take, Nat.min_eq_left way.room]

theorem keys_named (way : Way a) : way.named.map (·.1) = way.names := by
  simp only [named, List.map_map, Function.comp_def, List.map_id']

theorem value_of_mem_zip {value : String → Value} {names : List String} {count : Nat}
    {pair : String × Value} (given : pair ∈ names.zip ((names.take count).map value)) :
    pair.2 = value pair.1 := by
  induction names generalizing count with
  | nil => cases given
  | cons name names ih =>
      cases count with
      | zero => cases given
      | succ count =>
          rcases List.mem_cons.mp given with rfl | later
          · rfl
          · exact ih later

theorem value_of_mem {way : Way a} {pair : String × Value}
    (given : pair ∈ s.arguments way.positional way.named) : pair.2 = a.value pair.1 := by
  rcases List.mem_append.mp given with first | last
  · exact value_of_mem_zip first
  · obtain ⟨name, -, rfl⟩ := List.mem_map.mp last
    rfl

-- Nothing has to be known about the order of the arguments: all of them agree with the assignment, so
-- it does not matter which one is found first.
theorem lookup_arguments (way : Way a) {name : String} (member : name ∈ s.parameters) :
    ((s.arguments way.positional way.named).lookup name).getD .null = a.value name := by
  cases found : (s.arguments way.positional way.named).lookup name with
  | some v =>
      obtain ⟨before, after, whole, -⟩ := List.lookup_eq_some_iff.mp found
      have given : (name, v) ∈ s.arguments way.positional way.named := by
        rw [whole]
        exact List.mem_append_cons_self
      exact value_of_mem given
  | none =>
      obtain ⟨unreached, unnamed⟩ := lookup_arguments_eq_none.mp found
      rw [way.length_positional] at unreached
      rw [way.keys_named] at unnamed
      exact (way.omitted name member unreached unnamed).2.symm

end Way

end Signature

namespace Command

open Signature (Way)

variable {c : Command} {a : c.signature.Assignment}

theorem fits_way (way : Way a) : c.Fits way.positional way.named where
  known := by
    intro argument given
    obtain ⟨name, member, rfl⟩ := List.mem_map.mp given
    exact (way.fresh name member).1
  once := by
    intro argument given
    obtain ⟨name, member, rfl⟩ := List.mem_map.mp given
    rw [way.length_positional]
    exact (way.fresh name member).2
  room := by
    rw [way.length_positional]
    exact way.room
  complete := by
    intro name needed
    rw [way.length_positional, way.keys_named]
    by_contra absent
    obtain ⟨unreached, unnamed⟩ := not_or.mp absent
    exact (way.omitted name (List.mem_append_left _ needed) unreached unnamed).1 needed

theorem start_way (way : Way a) :
    Exchange.start c way.positional way.named = .ok (.called c a.arguments) := by
  refine bind_ok.mpr ⟨a.arguments, bind_ok_iff.mpr ⟨fits_way way, ?_⟩, rfl⟩
  exact List.map_congr_left fun name member => by rw [way.lookup_arguments member]

theorem encodeField_assigned {p : Protocol} {field : Field} (member : field ∈ c.parameters) :
    p.encodeField a.arguments field = p.encodeSlot field.toSlot (a.value field.name) := by
  rw [Protocol.encodeField_eq, Signature.Assignment.arguments, List.lookup_graph _ (mem_signature member)]

theorem request_order (p : Protocol) (a : c.signature.Assignment) :
    (∃ fault, (Exchange.called c a.arguments).resume p .null = (.fault fault, .finished)) ∨
      ∃ entries, (Exchange.called c a.arguments).resume p .null =
          (.request (c.message entries), .requested c) ∧
        entries.map (·.1) = (c.parameters.filter fun field =>
          !field.isOptional || !(a.value field.name).isNull).map fun field => .text field.key := by
  simp only [Exchange.resume, Value.isNull, ↓reduceIte, request_eq]
  cases written : p.encodeFields c.parameters a.arguments with
  | error fault => exact .inl ⟨fault, rfl⟩
  | ok entries =>
      refine .inr ⟨entries, rfl, keys_encodeFieldsWith ?_ written⟩
      intro field member value? kept
      rw [encodeField_assigned member] at kept
      exact Protocol.isSome_encodeSlot kept

end Command

/-- A call of a command binds exactly if it fits, and otherwise there is no exchange. All ways to call
with the same values start the same exchange. The keys of its request are those of the parameters that
are required or not null, in the order in which the command declares them. -/
theorem same_request_however_called (p : Protocol) (c : Command) :
    (∀ positional named, (∃ e, Exchange.start c positional named = .ok e) ↔ c.Fits positional named) ∧
    (∀ positional named, ¬ c.Fits positional named →
      ∃ fault, Exchange.start c positional named = .error fault ∧ fault.kind = .type) ∧
    ∀ a : c.signature.Assignment,
      (∀ way : Signature.Way a,
        Exchange.start c way.positional way.named = .ok (.called c a.arguments)) ∧
      ((∃ fault, (Exchange.called c a.arguments).resume p .null = (.fault fault, .finished)) ∨
        ∃ entries, (Exchange.called c a.arguments).resume p .null =
            (.request (c.message entries), .requested c) ∧
          entries.map (·.1) = (c.parameters.filter fun field =>
            !field.isOptional || !(a.value field.name).isNull).map fun field => .text field.key) :=
  ⟨fun _ _ => Command.start_ok_iff, fun _ _ => Command.start_refused,
    fun a => ⟨Command.start_way, Command.request_order p a⟩⟩

def load : Command :=
  { name := "load_network_resource", method := "Network.loadNetworkResource",
    parameters :=
      [ .optional "frame_id" "frameId" (.one (.ref "page" "FrameId")),
        .required "url" "url" (.one .text),
        .required "options" "options" (.one (.ref "network" "LoadNetworkResourceOptions")) ],
    returns := [.required "resource" (.one (.ref "network" "LoadNetworkResourcePageResult"))] }

def loadValue? (name : String) : Option Value :=
  [ ("frame_id", .wrapped ⟨"page", "FrameId"⟩ (.text "F")), ("url", .text "u"),
    ("options", .object ⟨"network", "LoadNetworkResourceOptions"⟩
      [("disable_cache", .bool true), ("include_credentials", .bool false)] none) ].lookup name

def loadValues : load.signature.Assignment where
  value? := loadValue?
  required := by decide

-- The required parameters go by position, as the signature has them first.
def loadByPosition : Signature.Way loadValues :=
  .full 2 ["frame_id"] (by decide) (by decide) (by decide)

def loadByName : Signature.Way loadValues :=
  .full 0 ["options", "frame_id", "url"] (by decide) (by decide) (by decide)

theorem load_misfits : ¬ load.Fits [] [("url", .text "u")] := by
  intro fits
  have missing : ¬ ("options" ∈ load.signature.reached 0 ∨ "options" ∈ ["url"]) := by decide
  exact missing (fits.complete "options" (by decide))

theorem same_request_however_called_load :
    protocol.command? "network" "load_network_resource" = some load ∧
    (∃ fault, Exchange.start load [] [("url", .text "u")] = .error fault ∧ fault.kind = .type) ∧
    ∃ e entries, Exchange.start load loadByPosition.positional loadByPosition.named = .ok e ∧
      Exchange.start load loadByName.positional loadByName.named = .ok e ∧
      e.resume protocol .null = (.request (load.message entries), .requested load) ∧
      entries.map (·.1) = [.text "frameId", .text "url", .text "options"] := by
  obtain ⟨-, refused, alike⟩ := same_request_however_called protocol load
  obtain ⟨started, replies⟩ := alike loadValues
  refine ⟨rfl, refused _ _ load_misfits, .called load loadValues.arguments, ?_⟩
  rcases replies with ⟨fault, failed⟩ | ⟨entries, asked, keys⟩
  · cases failed
  · exact ⟨entries, started loadByPosition, started loadByName, asked, keys⟩

end DevTools
