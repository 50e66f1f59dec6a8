import DevTools.Exchange
import DevTools.Proofs.Codec.NormalForm
import DevTools.Proofs.Methods

namespace DevTools

/-! ## What is sent -/

namespace Value

def sent (v : Value) : Value :=
  v.wire.unmarked

theorem sent_list (items : List Value) : (list items).sent = list (items.map sent) := by
  unfold sent
  induction items with
  | nil => rfl
  | cons v rest ih =>
      simp only [wire, wireItems, unmarked, unmarkedItems, list.injEq, List.map_cons] at ih ⊢
      rw [ih]

theorem sent_dict (entries : List (Value × Value)) :
    (dict entries).sent = dict (entries.map fun entry => (entry.1.sent, entry.2.sent)) := by
  unfold sent
  induction entries with
  | nil => rfl
  | cons entry rest ih =>
      simp only [wire, wireEntries, unmarked, unmarkedEntries, dict.injEq, List.map_cons] at ih ⊢
      rw [ih]

theorem sent_text (s : String) : (text s).sent = text s :=
  rfl

theorem sent_of_isJson {v : Value} (json : v.isJson = true) : v.sent = v.unmarked := by
  rw [sent, wire_of_isJson json]

theorem lookup?_sent {entries : List (Value × Value)}
    (texts : ∀ entry ∈ entries, ∃ s, entry.1 = text s) (key : String) :
    lookup? key (entries.map fun entry => (entry.1.sent, entry.2.sent)) =
      (lookup? key entries).map sent := by
  induction entries with
  | nil => rfl
  | cons entry rest ih =>
      obtain ⟨k, v⟩ := entry
      obtain ⟨⟨s, equal⟩, others⟩ := List.forall_mem_cons.mp texts
      obtain rfl : k = text s := equal
      have tail := ih others
      unfold lookup? at tail ⊢
      rw [List.map_cons, List.find?_cons, List.find?_cons, sent_text]
      cases (text s).isText key with
      | true => rfl
      | false => exact tail

end Value

namespace Protocol

variable {p : Protocol}

/-- Exact types, with plain JSON wherever the type says no more. -/
def Exact (p : Protocol) (isOptional : Bool) (shape : Shape) (v : Value) : Prop :=
  Typed p (·.isJson = true) (fun _ => True) isOptional shape v

/-! ## Fields -/

theorem encodeSlot_none {slot : Slot} {v : Value} (written : p.encodeSlot slot v = .ok none) :
    v = .null := by
  unfold encodeSlot at written
  split at written
  · rename_i omitted
    exact Value.isNull_iff.mp (Bool.and_eq_true_iff.mp omitted).2
  · obtain ⟨j, -, equal⟩ := map_ok.mp written
    cases equal

theorem isSome_encodeSlot {slot : Slot} {v : Value} {value? : Option Value}
    (written : p.encodeSlot slot v = .ok value?) :
    value?.isSome = (!slot.isOptional || !v.isNull) := by
  rw [← Bool.not_and]
  cases omitted : slot.isOptional && v.isNull with
  | true =>
      rw [encodeSlot, omitted] at written
      cases written
      rfl
  | false =>
      rw [encodeSlot_of_filled omitted] at written
      obtain ⟨j, -, rfl⟩ := map_ok.mp written
      rfl

theorem Typed.encodeSlot_ok {content : Value → Prop} {usable : Reference → Prop}
    (regular : p.IsRegular) (slot : Slot) {v : Value}
    (typed : Typed p content usable slot.isOptional slot.shape v)
    (writable : p.isWritableShape slot.shape = true) : ∃ value?, p.encodeSlot slot v = .ok value? := by
  cases omitted : slot.isOptional && v.isNull with
  | true => exact ⟨none, by simp only [encodeSlot, omitted, ↓reduceIte]⟩
  | false =>
      obtain ⟨j, written⟩ := typed.encode_ok regular writable omitted
      exact ⟨some j, by rw [encodeSlot_of_filled omitted, written]; rfl⟩

theorem encodeField_alike {fields : List Field} {values values' : List (String × Value)}
    {entries entries' : List (Value × Value)} (keys : (fields.map (·.key)).Nodup)
    (written : p.encodeFields fields values = .ok entries)
    (written' : p.encodeFields fields values' = .ok entries')
    (same : (Value.dict entries).sent = (Value.dict entries').sent) {field : Field}
    (member : field ∈ fields) :
    ∃ value? value?', p.encodeField values field = .ok value? ∧
      p.encodeField values' field = .ok value?' ∧ value?.map Value.sent = value?'.map Value.sent := by
  have texts : ∀ {values entries}, p.encodeFields fields values = .ok entries →
      ∀ entry ∈ entries, ∃ s, entry.1 = Value.text s := by
    intro values entries written entry inside
    obtain ⟨f, -, key, -⟩ := mem_encodeFieldsWith written entry inside
    exact ⟨f.key, key⟩
  refine ⟨_, _, lookup?_encodeFieldsWith keys written field member,
    lookup?_encodeFieldsWith keys written' field member, ?_⟩
  rw [Value.sent_dict, Value.sent_dict, Value.dict.injEq] at same
  rw [← Value.lookup?_sent (texts written), ← Value.lookup?_sent (texts written'), same]

/-! ## Values that are sent alike are alike -/

def Told (p : Protocol) (isOptional : Bool) (shape : Shape) (v : Value) : Prop :=
  ∀ v' j j', p.Exact isOptional shape v' → (isOptional && v.isNull) = false →
    (isOptional && v'.isNull) = false → p.encodeShape shape v = .ok j →
    p.encodeShape shape v' = .ok j' → j.sent = j'.sent → v.unmarked = v'.unmarked

theorem Told.slot (slot : Slot) {v v' : Value} {value? value?' : Option Value}
    (told : p.Told slot.isOptional slot.shape v) (exact' : p.Exact slot.isOptional slot.shape v')
    (written : p.encodeSlot slot v = .ok value?) (written' : p.encodeSlot slot v' = .ok value?')
    (same : value?.map Value.sent = value?'.map Value.sent) : v.unmarked = v'.unmarked := by
  cases value? with
  | none =>
      obtain rfl := Option.map_eq_none_iff.mp same.symm
      rw [encodeSlot_none written, encodeSlot_none written']
  | some j =>
      obtain ⟨j', rfl, alike⟩ := Option.map_eq_some_iff.mp same.symm
      obtain ⟨filled, shape⟩ := encodeSlot_some written
      obtain ⟨filled', shape'⟩ := encodeSlot_some written'
      exact told v' j j' exact' filled filled' shape shape' alike.symm

theorem Told.items {item : Item} {values values' js js' : List Value}
    (told : ∀ v ∈ values, p.Told false (.one item) v)
    (exact' : ∀ v ∈ values', p.Exact false (.one item) v) (length : values.length = js.length)
    (each : ∀ pair ∈ values.zip js, p.encodeShape (.one item) pair.1 = .ok pair.2)
    (length' : values'.length = js'.length)
    (each' : ∀ pair ∈ values'.zip js', p.encodeShape (.one item) pair.1 = .ok pair.2)
    (same : js.map Value.sent = js'.map Value.sent) :
    values.map Value.unmarked = values'.map Value.unmarked := by
  induction values generalizing js values' js' with
  | nil =>
      obtain rfl := List.length_eq_zero_iff.mp length.symm
      obtain rfl := List.map_eq_nil_iff.mp same.symm
      rw [List.length_eq_zero_iff.mp length']
  | cons v rest ih =>
      cases js with
      | nil => cases length
      | cons j js =>
          cases js' with
          | nil => cases same
          | cons j' js' =>
              cases values' with
              | nil => cases length'
              | cons v' rest' =>
                  simp only [List.map_cons, List.cons.injEq] at same ⊢
                  simp only [List.zip_cons_cons, List.forall_mem_cons] at each each' told exact'
                  have head := told.1 v' j j' exact'.1 rfl rfl each.1 each'.1 same.1
                  exact ⟨head, ih told.2 exact'.2 (Nat.succ.inj length) each.2 (Nat.succ.inj length')
                    each'.2 same.2⟩

theorem Typed.told (regular : p.IsRegular) {isOptional : Bool} {shape : Shape} {v : Value}
    (exact : Typed p (·.isJson = true) (fun _ => True) isOptional shape v)
    (writable : p.isWritableShape shape = true) : p.Told isOptional shape v := by
  induction exact with
  | missing => intro v' j j' _ filled; cases filled
  | primitive _ json =>
      intro v' j j' exact' filled filled' written written' same
      cases written
      cases written'
      cases exact' with
      | missing => cases filled'
      | primitive _ json' =>
          rwa [Value.sent_of_isJson json, Value.sent_of_isJson json'] at same
  | @wrapper isOptional ref name base v _ declared _ json =>
      intro v' j j' exact' filled filled' written written' same
      cases written
      cases exact' with
      | missing => cases filled'
      | @wrapper _ _ _ _ v' _ _ _ json' =>
          cases written'
          have bare : v.sent = v'.sent := same
          rw [Value.sent_of_isJson json, Value.sent_of_isJson json'] at bare
          simp only [Value.unmarked, bare]
      | member _ declared' => cases declared.symm.trans declared'
      | object _ found => simp [fields?, declared] at found
  | @member isOptional ref name members member wire _ declared canonical =>
      intro v' j j' exact' filled filled' written written' same
      cases written
      cases exact' with
      | missing => cases filled'
      | wrapper _ declared' => cases declared.symm.trans declared'
      | member _ declared' canonical' =>
          cases written'
          cases declared.symm.trans declared'
          cases (same : Value.text wire = _)
          cases canonical.symm.trans canonical'
          rfl
      | object _ found => simp [fields?, declared] at found
  | @object isOptional ref fields values id _ found names _ ih =>
      intro v' j j' exact' filled filled' written written' same
      obtain ⟨name, declared⟩ := fields?_of_isWritable found writable
      have record := regular _ _ _ declared
      cases exact' with
      | missing => cases filled'
      | wrapper _ declared' => cases declared.symm.trans declared'
      | member _ declared' => cases declared.symm.trans declared'
      | @object _ _ fields' values' id' _ found' names' typed' =>
          cases found.symm.trans found'
          simp only [encodeShape, encode_object declared] at written written'
          obtain ⟨entries, each, rfl⟩ := map_ok.mp written
          obtain ⟨entries', each', rfl⟩ := map_ok.mp written'
          refine congrArg (Value.object ref.target · none) ?_
          refine (Value.unmarkedFields_congr (names'.trans names.symm) fun pair inside => ?_).symm
          have length : fields.length = (values.zip values').length := by
            rw [List.length_zip, ← length_of_names names, ← length_of_names names', Nat.min_self]
          obtain ⟨field, paired⟩ := exists_mem_zip_right length inside
          obtain ⟨first, second⟩ := mem_zip_zip paired
          have member := (List.of_mem_zip first).1
          obtain ⟨value?, value?', slot, slot', alike⟩ :=
            encodeField_alike record.keys each each' same member
          rw [encodeField_eq, lookup_of_mem_zip names record.names first] at slot
          rw [encodeField_eq, lookup_of_mem_zip names' record.names second] at slot'
          have told := ih _ first (record.writable field member)
          exact (Told.slot field.toSlot told (typed' _ second) slot slot' alike).symm
  | @list isOptional item values _ ih =>
      intro v' j j' exact' filled filled' written written' same
      cases exact' with
      | missing => cases filled'
      | @list _ _ values' typed' =>
          obtain ⟨js, rfl, length, each⟩ := encodeShape_list written
          obtain ⟨js', rfl, length', each'⟩ := encodeShape_list written'
          rw [Value.sent_list, Value.sent_list, Value.list.injEq] at same
          have items := Told.items (fun v member => ih v member writable) typed' length each length' each' same
          simp only [Value.unmarked, Value.unmarkedItems_eq, items]

end Protocol

/-! ## Requests -/

def argument (arguments : List (String × Value)) (field : Field) : Value :=
  (arguments.lookup field.name).getD .null

namespace Command

def Accepts (c : Command) (arguments : List (String × Value)) : Prop :=
  ∀ field ∈ c.parameters, protocol.Exact field.isOptional field.shape (argument arguments field)

theorem mem_signature {c : Command} {field : Field} (member : field ∈ c.parameters) :
    field.name ∈ c.signature.parameters := by
  simp only [signature, Signature.parameters, Signature.ofFields, List.mem_append, List.mem_map,
    List.mem_filter]
  cases optional : field.isOptional with
  | false => exact .inl ⟨field, ⟨member, by simp [optional]⟩, rfl⟩
  | true => exact .inr ⟨field, ⟨member, optional⟩, rfl⟩

theorem lookup_bind {c : Command} {positional : List Value} {named arguments : List (String × Value)}
    (bound : c.signature.bind positional named = .ok arguments) {field : Field}
    (member : field ∈ c.parameters) :
    arguments.lookup field.name = some (argument arguments field) := by
  suffices found : ∃ v, arguments.lookup field.name = some v by
    obtain ⟨v, found⟩ := found
    rw [argument, found]
    rfl
  simp only [Signature.bind, bind_ok] at bound
  obtain ⟨-, -, bound⟩ := bound
  split at bound
  · cases bound
  · split at bound
    · cases bound
      exact ⟨_, List.lookup_graph _ (List.mem_append_left _ (mem_signature member))⟩
    · cases bound

theorem encodeField_bind {p : Protocol} {c : Command} {positional : List Value}
    {named arguments : List (String × Value)}
    (bound : c.signature.bind positional named = .ok arguments) {field : Field}
    (member : field ∈ c.parameters) :
    p.encodeField arguments field = p.encodeSlot field.toSlot (argument arguments field) := by
  rw [Protocol.encodeField_eq, lookup_bind bound member]

def message (c : Command) (entries : List (Value × Value)) : Value :=
  .dict ((.text "method", .text c.method) ::
    if c.parameters.isEmpty then [] else [(.text "params", .dict entries)])

theorem request_eq {p : Protocol} (c : Command) (arguments : List (String × Value)) :
    c.request p arguments = c.message <$> p.encodeFields c.parameters arguments := by
  unfold request message
  cases p.encodeFields c.parameters arguments with
  | error fault => rfl
  | ok entries => cases c.parameters.isEmpty <;> rfl

theorem method_of_sent {c c' : Command} {entries entries' : List (Value × Value)}
    (same : (c.message entries).sent = (c'.message entries').sent) : c.method = c'.method := by
  simp only [message, Value.sent_dict, List.map_cons, Value.sent_text, Value.dict.injEq, List.cons.injEq,
    Prod.mk.injEq, Value.text.injEq] at same
  exact same.1.2

theorem entries_of_sent {c : Command} {field : Field} (member : field ∈ c.parameters)
    {entries entries' : List (Value × Value)}
    (same : (c.message entries).sent = (c.message entries').sent) :
    (Value.dict entries).sent = (Value.dict entries').sent := by
  have some : c.parameters.isEmpty = false := by
    simpa using List.ne_nil_of_mem member
  simp only [message, some, Bool.false_eq_true, ↓reduceIte, Value.sent_dict (_ :: _), List.map_cons,
    List.map_nil, Value.dict.injEq, List.cons.injEq, Prod.mk.injEq] at same
  exact same.2.1.2

end Command

theorem keys_encodeFieldsWith {write : Field → Except Fault (Option Value)} {kept : Field → Bool}
    {fields : List Field} {entries : List (Value × Value)}
    (each : ∀ field ∈ fields, ∀ value?, write field = .ok value? → value?.isSome = kept field)
    (written : encodeFieldsWith write fields = .ok entries) :
    entries.map (·.1) = (fields.filter kept).map fun field => Value.text field.key := by
  induction fields generalizing entries with
  | nil =>
      cases written
      rfl
  | cons field rest ih =>
      obtain ⟨value?, others, head, tail, rfl⟩ := encodeFieldsWith_cons.mp written
      obtain ⟨here, below⟩ := List.forall_mem_cons.mp each
      have keep := here value? head
      rw [List.map_append, ih below tail, List.filter_cons, ← keep]
      cases value? <;> rfl

open Protocol in
theorem Command.parameters_written {content : Value → Prop} {usable : Reference → Prop} {scope : String}
    {c : Command} {positional : List Value} {named arguments : List (String × Value)}
    (member : (scope, c) ∈ protocol.commands) (bound : c.signature.bind positional named = .ok arguments)
    (typed : ∀ field ∈ c.parameters,
      Typed protocol content usable field.isOptional field.shape (argument arguments field)) :
    ∃ entries, protocol.encodeFields c.parameters arguments = .ok entries := by
  refine encodeFieldsWith_ok fun field inside => ?_
  obtain ⟨value?, written⟩ := Typed.encodeSlot_ok protocol_isRegular field.toSlot
    (typed field inside) (parameter_writable member inside)
  exact ⟨value?, by rw [Command.encodeField_bind bound inside, written]⟩

structure Call where
  scope : String
  name : String
  command : Command
  positional : List Value
  named : List (String × Value)
  arguments : List (String × Value)
  declared : protocol.command? scope name = some command
  bound : command.signature.bind positional named = .ok arguments
  accepted : command.Accepts arguments

namespace Call

open Protocol

def value (call : Call) (field : Field) : Value :=
  argument call.arguments field

theorem member (call : Call) : (call.scope, call.command) ∈ protocol.commands :=
  (mem_commands call.declared).1

theorem resume_request (call : Call) : ∃ entries,
    protocol.encodeFields call.command.parameters call.arguments = .ok entries ∧
      (Exchange.called call.command call.arguments).resume protocol .null =
        (.request (call.command.message entries), .requested call.command) := by
  obtain ⟨entries, written⟩ := Command.parameters_written call.member call.bound call.accepted
  have asked : call.command.request protocol call.arguments = .ok (call.command.message entries) := by
    rw [Command.request_eq, written]
    rfl
  exact ⟨entries, written, by simp only [Exchange.resume, Value.isNull, ↓reduceIte, asked]⟩

theorem eq_of_method {a b : Call} (same : a.command.method = b.command.method) :
    a.scope = b.scope ∧ a.name = b.name ∧ a.command = b.command := by
  have equal := List.inj_on_of_nodup_map command_methods_nodup a.member b.member same
  obtain ⟨scope, command⟩ := Prod.mk.inj equal
  refine ⟨scope, ?_, command⟩
  rw [← (mem_commands a.declared).2, ← (mem_commands b.declared).2, command]

theorem value_eq_of_sent {a b : Call} (command : a.command = b.command)
    {entries entries' : List (Value × Value)}
    (written : protocol.encodeFields a.command.parameters a.arguments = .ok entries)
    (written' : protocol.encodeFields b.command.parameters b.arguments = .ok entries')
    (same : (a.command.message entries).sent = (b.command.message entries').sent) {field : Field}
    (inside : field ∈ a.command.parameters) : (a.value field).unmarked = (b.value field).unmarked := by
  rw [← command] at written' same
  obtain ⟨value?, value?', slot, slot', alike⟩ := encodeField_alike (parameter_keys_nodup a.member)
    written written' (Command.entries_of_sent inside same) inside
  have inside' : field ∈ b.command.parameters := command ▸ inside
  rw [Command.encodeField_bind a.bound inside] at slot
  rw [Command.encodeField_bind b.bound inside'] at slot'
  have told := Typed.told protocol_isRegular (a.accepted field inside)
    (parameter_writable a.member inside)
  exact Told.slot field.toSlot told (b.accepted field inside') slot slot' alike

theorem isSome_parameter {call : Call} {field : Field} (inside : field ∈ call.command.parameters)
    {value? : Option Value} (written : protocol.encodeField call.arguments field = .ok value?) :
    value?.isSome = (!field.isOptional || !(call.value field).isNull) := by
  rw [Command.encodeField_bind call.bound inside] at written
  exact isSome_encodeSlot written

end Call

open Call in
/-- Two calls of any commands send the same message only if they call the same command with the same
values. The message has the method, and the keys of those parameters that are required or not null. -/
theorem request_injective (a b : Call) :
    ∃ m m', (Exchange.called a.command a.arguments).resume protocol .null =
        (.request m, .requested a.command) ∧
      (Exchange.called b.command b.arguments).resume protocol .null =
        (.request m', .requested b.command) ∧
      (m.wire.unmarked = m'.wire.unmarked →
        a.scope = b.scope ∧ a.name = b.name ∧ a.command = b.command ∧
          ∀ field ∈ a.command.parameters, (a.value field).unmarked = (b.value field).unmarked) ∧
      ∃ entries, m = .dict ((.text "method", .text a.command.method) ::
          if a.command.parameters.isEmpty then [] else [(.text "params", .dict entries)]) ∧
        (entries.map (·.1) = (a.command.parameters.filter fun field =>
          !field.isOptional || !(a.value field).isNull).map fun field => .text field.key) ∧
        ∀ field ∈ a.command.parameters, (Value.lookup? field.key entries).isSome =
          (!field.isOptional || !(a.value field).isNull) := by
  obtain ⟨entries, written, resumed⟩ := a.resume_request
  obtain ⟨entries', written', resumed'⟩ := b.resume_request
  refine ⟨_, _, resumed, resumed', fun same => ?_, entries, rfl, ?_, ?_⟩
  · obtain ⟨scope, name, command⟩ := eq_of_method (Command.method_of_sent same)
    exact ⟨scope, name, command, fun field inside => value_eq_of_sent command written written' same inside⟩
  · exact keys_encodeFieldsWith (fun field inside value? => isSome_parameter inside) written
  · intro field inside
    have found := lookup?_encodeFieldsWith (parameter_keys_nodup a.member) written field inside
    exact isSome_parameter inside found

def attach : Command :=
  { name := "attach_to_target", method := "Target.attachToTarget",
    parameters :=
      [ .required "target_id" "targetId" (.one (.ref "target" "TargetID")),
        .optional "flatten" "flatten" (.one .boolean) ],
    returns := [.required "sessionId" (.one (.ref "target" "SessionID"))] }

theorem attach_accepts :
    attach.Accepts [("target_id", .wrapped ⟨"target", "TargetID"⟩ (.text "T")), ("flatten", .null)] := by
  simp only [Command.Accepts, attach, List.forall_mem_cons]
  exact ⟨.wrapper trivial rfl rfl rfl, .missing, fun _ inside => by cases inside⟩

def attachByPosition : Call where
  scope := "target"
  name := "attach_to_target"
  command := attach
  positional := [.wrapped ⟨"target", "TargetID"⟩ (.text "T")]
  named := []
  arguments := [("target_id", .wrapped ⟨"target", "TargetID"⟩ (.text "T")), ("flatten", .null)]
  declared := rfl
  bound := rfl
  accepted := attach_accepts

def attachByName : Call where
  scope := "target"
  name := "attach_to_target"
  command := attach
  positional := []
  named := [("flatten", .null), ("target_id", .wrapped ⟨"target", "TargetID"⟩ (.text "T"))]
  arguments := [("target_id", .wrapped ⟨"target", "TargetID"⟩ (.text "T")), ("flatten", .null)]
  declared := rfl
  bound := rfl
  accepted := attach_accepts

theorem request_injective_attach :
    ∃ m m', (Exchange.called attach attachByPosition.arguments).resume protocol .null =
        (.request m, .requested attach) ∧
      (Exchange.called attach attachByName.arguments).resume protocol .null =
        (.request m', .requested attach) ∧ m.wire.unmarked = m'.wire.unmarked ∧
      ∀ field ∈ attach.parameters,
        (attachByPosition.value field).unmarked = (attachByName.value field).unmarked := by
  obtain ⟨m, m', asked, asked', tells, -⟩ := request_injective attachByPosition attachByName
  obtain rfl : m = m' := by
    have same := asked.symm.trans asked'
    cases same
    rfl
  exact ⟨m, m, asked, asked', rfl, (tells rfl).2.2.2⟩

end DevTools
