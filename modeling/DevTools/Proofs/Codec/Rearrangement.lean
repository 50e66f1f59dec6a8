import DevTools.Exchange
import DevTools.Proofs.Codec.Progress

/-!
# Rearranged messages

What a decoder reads of a dictionary is the entries under its own keys. `Alike` relates messages that
differ only in what no decoder reads: in dictionaries that are read by slots, the order of the entries and
the entries under other keys. The relation follows the declared types, so it leaves alone what is kept or
spelled out as it stands, such as a dictionary that is read as any value or as a text.
-/

namespace DevTools

namespace Value

theorem eq_of_isText {v : Value} {s : String} (named : v.isText s = true) :
    v = .text s ∨ ∃ type, v = .wrapped type (.text s) := by
  cases v with
  | text r => simp_all [isText, core]
  | wrapped type base => cases base <;> simp_all [isText, core]
  | _ => simp [isText, core] at named

theorem agrees_of_isText {a b : Value} {s : String} (left : a.isText s = true) (right : b.isText s = true) :
    a.agrees b = true := by
  rcases eq_of_isText left with rfl | ⟨type, rfl⟩ <;> rcases eq_of_isText right with rfl | ⟨type', rfl⟩ <;>
    simp [agrees, equals, core]

theorem lookup?_cons (key : String) (k v : Value) (rest : List (Value × Value)) :
    lookup? key ((k, v) :: rest) = if k.isText key then some v else lookup? key rest := by
  unfold lookup?
  rw [List.find?_cons]
  cases k.isText key <;> rfl

theorem lookup?_perm {entries entries' : List (Value × Value)} (proper : ProperKeys entries)
    (perm : entries.Perm entries') (key : String) : lookup? key entries = lookup? key entries' := by
  -- Proper keys differ from each other, so at most one of them is the key, in whatever order they are.
  have alone : entries.Pairwise fun a b => ¬ (a.1.isText key = true ∧ b.1.isText key = true) := by
    refine proper.2.imp fun differ both => ?_
    rw [agrees_of_isText both.1 both.2] at differ
    cases differ
  clear proper
  induction perm with
  | nil => rfl
  | cons entry _ ih =>
      rw [lookup?_cons, lookup?_cons, ih (List.pairwise_cons.mp alone).2]
  | swap first second rest =>
      have apart := (List.pairwise_cons.mp alone).1 first List.mem_cons_self
      rw [lookup?_cons, lookup?_cons, lookup?_cons, lookup?_cons]
      cases here : first.1.isText key <;> cases there : second.1.isText key <;> simp_all
  | trans first _ ih ih' =>
      rw [ih alone]
      exact ih' (first.pairwise alone fun apart => by rwa [and_comm] at apart)

end Value

/-! ## The relation -/

inductive Place where
  | shape (shape : Shape)
  | message (slots : List Slot)

/-- The values differ only in what is not read at the place. -/
inductive Alike (p : Protocol) : Place → Value → Value → Prop
  | refl {place : Place} {v : Value} : Alike p place v v
  | symm {place : Place} {v w : Value} : Alike p place v w → Alike p place w v
  | trans {place : Place} {u v w : Value} : Alike p place u v → Alike p place v w → Alike p place u w
  -- Entries change places.
  | reorder {slots : List Slot} {m m' : Value} {entries entries' : List (Value × Value)} :
      m.core = .dict entries → m'.core = .dict entries' → Value.ProperKeys entries →
      entries.Perm entries' → Alike p (.message slots) m m'
  -- An entry is added under a key that no slot has.
  | add {slots : List Slot} {m m' key v : Value} (before : List (Value × Value))
      {after : List (Value × Value)} :
      m.core = .dict (before ++ after) → m'.core = .dict (before ++ (key, v) :: after) →
      (∀ slot ∈ slots, key.isText slot.key = false) → Alike p (.message slots) m m'
  -- An entry changes as its slots allow.
  | entry {slots : List Slot} {m m' key v v' : Value} (before : List (Value × Value))
      {after : List (Value × Value)} :
      m.core = .dict (before ++ (key, v) :: after) → m'.core = .dict (before ++ (key, v') :: after) →
      (∀ slot ∈ slots, key.isText slot.key = true → Alike p (.shape slot.shape) v v') →
      Alike p (.message slots) m m'
  -- An instance of a record or event is read from a message with its fields.
  | record {ref : Reference} {fields : List Field} {m m' : Value} :
      p.fields? ref.target = some fields → Alike p (.message (fields.map (·.toSlot))) m m' →
      Alike p (.shape (.one (.reference ref))) m m'
  -- One of many items changes.
  | item {item : Item} {m m' v v' : Value} (before : List Value) {after : List Value} :
      m.items = .ok (before ++ v :: after) → m'.items = .ok (before ++ v' :: after) →
      Alike p (.shape (.one item)) v v' → Alike p (.shape (.many item)) m m'

namespace Protocol

variable {p : Protocol}

/-! ## Slots -/

variable (p) in
def decodeFound (slot : Slot) : (found? : Option Value) → Except Fault Value
  | some v =>
    match slot.shape.unresolved? with
    | some scope => .error (.undefinedName scope)
    | none => p.decodeShape v slot.shape
  | none =>
    if slot.isOptional then .ok .null
    else
      match slot.shape.unresolved? with
      | some scope => .error (.undefinedName scope)
      | none => .error (.missingKey (.text slot.key))

theorem decodeSlot_dict (entries : List (Value × Value)) (slot : Slot) :
    decodeSlotWith (.dict entries) (p.entryDecoder (.dict entries)) slot =
      p.decodeFound slot (Value.lookup? slot.key entries) := by
  cases found : Value.lookup? slot.key entries with
  | some v =>
      cases named : slot.shape.unresolved? with
      | some scope =>
          rw [decodeSlot_of_unresolved (fun _ => by rw [found]; rfl) named]
          simp only [decodeFound, named]
      | none =>
          rw [decodeSlot_of_found found named]
          simp only [decodeFound, named]
  | none =>
      cases optional : slot.isOptional with
      | true =>
          rw [decodeSlot_of_missing optional found]
          simp only [decodeFound, optional, ↓reduceIte]
      | false =>
          simp only [decodeSlotWith, decodePresentWith, decodeFound, optional, Bool.false_eq_true, ↓reduceIte,
            entryDecoder_eq, Value.entry, Value.core, found]
          rfl

theorem decodeSlot_eq {m : Value} {entries : List (Value × Value)} (dict : m.core = .dict entries)
    (slot : Slot) : decodeSlotWith m (p.entryDecoder m) slot =
      p.decodeFound slot (Value.lookup? slot.key entries) := by
  rw [← decodeSlot_dict]
  cases m with
  | dict _ => rw [← dict]; rfl
  | wrapped type base => rw [show base = .dict entries from dict]; rfl
  | _ => cases dict

theorem decodeFound_entry {slot : Slot} {key v v' : Value} {before after : List (Value × Value)}
    (same : key.isText slot.key = true → p.decodeShape v slot.shape = p.decodeShape v' slot.shape) :
    p.decodeFound slot (Value.lookup? slot.key (before ++ (key, v) :: after)) =
      p.decodeFound slot (Value.lookup? slot.key (before ++ (key, v') :: after)) := by
  rw [Value.lookup?_append, Value.lookup?_append, Value.lookup?_cons, Value.lookup?_cons]
  cases Value.lookup? slot.key before with
  | some w => rfl
  | none =>
      cases named : key.isText slot.key with
      | false => rfl
      | true => simp only [Option.none_or, ↓reduceIte, decodeFound, same named]

theorem decodeItems_append {item : Item} {before after : List Value} {v v' : Value}
    (same : p.decodeItem v item = p.decodeItem v' item) :
    p.decodeItems (before ++ v :: after) item = p.decodeItems (before ++ v' :: after) item := by
  induction before with
  | nil => simp only [List.nil_append, decodeItems, same]
  | cons w rest ih => simp only [List.cons_append, decodeItems, ih]

theorem decodeSlotsWith_congr {m m' : Value} {entry entry' : EntryDecoder} {slots : List Slot}
    (same : ∀ slot ∈ slots, decodeSlotWith m entry slot = decodeSlotWith m' entry' slot) :
    decodeSlotsWith m entry slots = decodeSlotsWith m' entry' slots := by
  induction slots with
  | nil => rfl
  | cons slot rest ih =>
      obtain ⟨head, tail⟩ := List.forall_mem_cons.mp same
      simp only [decodeSlotsWith, head, ih tail]

theorem decodeShape_reference_congr {ref : Reference} {fields : List Field} {m m' : Value}
    (found : p.fields? ref.target = some fields)
    (same : ∀ slot ∈ fields.map (·.toSlot),
      decodeSlotWith m (p.entryDecoder m) slot = decodeSlotWith m' (p.entryDecoder m') slot) :
    p.decodeShape m (.one (.reference ref)) = p.decodeShape m' (.one (.reference ref)) := by
  show p.decodeItem m _ = p.decodeItem m' _
  cases named : ref.selfNamed with
  | true => simp only [decodeItem_eq, decodeItemWith, named, ↓reduceIte]
  | false =>
      rw [decodeItem_object named found, decodeItem_object named found, decodeFieldsWith_eq,
        decodeFieldsWith_eq, decodeSlotsWith_congr same]

theorem decodeShape_many_congr {item : Item} {m m' v v' : Value} {before after : List Value}
    (items : m.items = .ok (before ++ v :: after)) (items' : m'.items = .ok (before ++ v' :: after))
    (same : p.decodeItem v item = p.decodeItem v' item) :
    p.decodeShape m (.many item) = p.decodeShape m' (.many item) := by
  show Value.list <$> p.decodeAll m item = Value.list <$> p.decodeAll m' item
  rw [decodeAll_eq, decodeAll_eq, items, items']
  exact congrArg (Value.list <$> ·) (decodeItems_append same)

end Protocol

/-! ## Alike messages are read alike -/

namespace Alike

open Protocol

variable {p : Protocol}

def Reads (p : Protocol) : Place → Value → Value → Prop
  | .shape shape, v, w => p.decodeShape v shape = p.decodeShape w shape
  | .message slots, m, m' => ∀ slot ∈ slots,
      decodeSlotWith m (p.entryDecoder m) slot = decodeSlotWith m' (p.entryDecoder m') slot

theorem reads {place : Place} {v w : Value} (alike : Alike p place v w) : Reads p place v w := by
  induction alike with
  | @refl place v => cases place <;> simp [Reads]
  | @symm place v w _ ih =>
      cases place with
      | shape shape => exact Eq.symm ih
      | message slots => exact fun slot member => (ih slot member).symm
  | @trans place u v w _ _ first second =>
      cases place with
      | shape shape => exact Eq.trans first second
      | message slots => exact fun slot member => (first slot member).trans (second slot member)
  | reorder dict dict' proper perm =>
      intro slot _
      rw [decodeSlot_eq dict, decodeSlot_eq dict', Value.lookup?_perm proper perm]
  | add before dict dict' unknown =>
      intro slot member
      rw [decodeSlot_eq dict, decodeSlot_eq dict', Value.lookup?_append, Value.lookup?_append,
        Value.lookup?_cons, unknown slot member]
      rfl
  | entry before dict dict' _ ih =>
      intro slot member
      rw [decodeSlot_eq dict, decodeSlot_eq dict']
      exact decodeFound_entry (ih slot member)
  | record found _ ih => exact decodeShape_reference_congr found ih
  | item before items items' _ ih => exact decodeShape_many_congr items items' ih

theorem decode {type : TypeName} {fields : List Field} {m m' : Value}
    (found : p.fields? type = some fields) (alike : Alike p (.message (fields.map (·.toSlot))) m m') :
    p.decode type m = p.decode type m' := by
  have whole : Alike p (.shape (.one (.reference ⟨type, false⟩))) m m' := .record found alike
  exact whole.reads

theorem result {command : Command} {m m' : Value} (alike : Alike p (.message command.returns) m m') :
    command.result p m = command.result p m' := by
  have same : p.decodeSlots command.returns m = p.decodeSlots command.returns m' :=
    decodeSlotsWith_congr alike.reads
  rw [Command.result, Command.result, same]

end Alike

/-! ## Events -/

def Registry.envelope (registry : Registry) (m : Value) : List Slot :=
  [ .required "method" (.one .any),
    .required "params" (match m.entry "method" >>= registry.find with
      | .ok type => .one (.reference ⟨type, false⟩)
      | .error _ => .one .any) ]

namespace Protocol

variable {p : Protocol}

theorem decodeSlot_required {m : Value} {key : String} {shape : Shape}
    (resolved : shape.unresolved? = none) :
    decodeSlotWith m (p.entryDecoder m) (.required key shape) =
      (m.entry key >>= fun v => p.decodeShape v shape) := by
  simp only [decodeSlotWith, decodePresentWith, Slot.required, Bool.false_eq_true, ↓reduceIte, resolved,
    entryDecoder_eq]

theorem decodeSlot_any (m : Value) (key : String) :
    decodeSlotWith m (p.entryDecoder m) (.required key (.one .any)) = m.entry key := by
  rw [decodeSlot_required rfl]
  cases m.entry key with
  | error fault => rfl
  | ok v => exact p.decodeItem_eq v .any

end Protocol

open Protocol in
theorem Alike.decodeEvent {p : Protocol} {registry : Registry} {m m' : Value}
    (alike : Alike p (.message (registry.envelope m)) m m') :
    registry.decodeEvent p m = registry.decodeEvent p m' := by
  have method : m.entry "method" = m'.entry "method" := by
    have slot := alike.reads _ List.mem_cons_self
    rwa [decodeSlot_any, decodeSlot_any] at slot
  rw [Registry.decodeEvent_eq_bind, Registry.decodeEvent_eq_bind, ← method]
  cases routed : m.entry "method" >>= registry.find with
  | error fault => rfl
  | ok type =>
      have slot := alike.reads (.required "params" (.one (.reference ⟨type, false⟩)))
        (by simp [Registry.envelope, routed])
      rwa [decodeSlot_required rfl, decodeSlot_required rfl] at slot

/-! ## The statement -/

/-- Whether a message can be read and what it is read as do not depend on the order of keys or on unknown
keys, at any depth. If it cannot be read, the fault is the same. -/
theorem alike_messages_read_alike {p : Protocol} :
    (∀ type fields m m', p.fields? type = some fields →
      Alike p (.message (fields.map (·.toSlot))) m m' → p.decode type m = p.decode type m') ∧
    (∀ command m m', Alike p (.message command.returns) m m' →
      Exchange.resume p m (.requested command) = Exchange.resume p m' (.requested command)) ∧
    (∀ (registry : Registry) m m', Alike p (.message (registry.envelope m)) m m' →
      registry.decodeEvent p m = registry.decodeEvent p m') := by
  refine ⟨fun type fields m m' found alike => alike.decode found, fun command m m' alike => ?_,
    fun registry m m' alike => alike.decodeEvent⟩
  rw [Exchange.resume, Exchange.resume, alike.result]

def metric : Value :=
  .dict [(.text "name", .text "Nodes"), (.text "value", .int 7)]

-- The same metric the other way round, with a unit that is not declared.
def metricWithUnit : Value :=
  .dict [(.text "unit", .list []), (.text "value", .int 7), (.text "name", .text "Nodes")]

theorem metric_alike :
    Alike protocol (.message [.required "name" (.one .text), .required "value" (.one .number)])
      metric metricWithUnit := by
  refine .trans (v := .dict [(.text "value", .int 7), (.text "name", .text "Nodes")]) ?_ ?_
  · exact .reorder rfl rfl (by decide) (.swap _ _ [])
  · exact .add [] rfl rfl (by decide)

def metrics (m : Value) : List (Value × Value) :=
  [(.text "metrics", .list [m]), (.text "title", .text "page")]

theorem metrics_alike {slots : List Slot} (known : ∀ slot ∈ slots,
      (Value.text "metrics").isText slot.key = true → slot.shape = .many (.ref "performance" "Metric")) :
    Alike protocol (.message slots) (.dict (metrics metric)) (.dict (metrics metricWithUnit)) := by
  refine .entry [] rfl rfl fun slot member named => ?_
  rw [known slot member named]
  exact .item [] rfl rfl (.record rfl metric_alike)

def announced (m : Value) : List (Value × Value) :=
  [(.text "method", .text "Performance.metrics"), (.text "params", .dict (metrics m))]

theorem announced_alike :
    Alike protocol (.message ((Registry.ofProtocol protocol).envelope (.dict (announced metric))))
      (.dict (announced metric)) (.dict ((.text "id", .int 1) :: announced metricWithUnit)) := by
  have routed : (Registry.ofProtocol protocol).find (.text "Performance.metrics") =
      .ok ⟨"performance", "Metrics"⟩ := by
    have listed : Domain.Performance.domain ∈ protocol.domains := List.mem_of_getElem? (i := 32) rfl
    exact find_of_mem_events (List.mem_flatMap.mpr ⟨_, listed, .head _⟩)
  have envelope : (Registry.ofProtocol protocol).envelope (.dict (announced metric)) =
      [.required "method" (.one .any), .required "params" (.one (.ref "performance" "Metrics"))] := by
    have method : (Value.dict (announced metric)).entry "method" = .ok (.text "Performance.metrics") := rfl
    simp only [Registry.envelope, method, bind, Except.bind, routed]
    rfl
  rw [envelope]
  refine .trans (v := .dict (announced metricWithUnit)) ?_ (.add [] rfl rfl (by decide))
  refine .entry [(.text "method", .text "Performance.metrics")] rfl rfl ?_
  simp only [List.forall_mem_cons]
  refine ⟨?_, ?_, ?_⟩
  · intro named
    cases named
  · exact fun _ => .record rfl (metrics_alike (by decide))
  · exact fun _ member => by cases member

theorem alike_messages_read_alike_metrics :
    protocol.decode ⟨"performance", "Metric"⟩ metric =
      protocol.decode ⟨"performance", "Metric"⟩ metricWithUnit ∧
    (∃ command, protocol.command? "performance" "get_metrics" = some command ∧
      Exchange.resume protocol (.dict (metrics metric)) (.requested command) =
        Exchange.resume protocol (.dict (metrics metricWithUnit)) (.requested command)) ∧
    (Registry.ofProtocol protocol).decodeEvent protocol (.dict (announced metric)) =
      (Registry.ofProtocol protocol).decodeEvent protocol
        (.dict ((.text "id", .int 1) :: announced metricWithUnit)) := by
  obtain ⟨decode, resume, decodeEvent⟩ := alike_messages_read_alike (p := protocol)
  exact ⟨decode _ _ _ _ rfl metric_alike, ⟨_, rfl, resume _ _ _ (metrics_alike (by decide))⟩,
    decodeEvent _ _ _ announced_alike⟩

end DevTools
