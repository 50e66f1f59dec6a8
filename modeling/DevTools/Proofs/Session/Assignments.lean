import DevTools.Proofs.Call.Binding
import DevTools.Proofs.Codec.Nulls
import DevTools.Proofs.Codec.Stability
import DevTools.Proofs.Session.Interleaving
import DevTools.Proofs.Store.Unfolding

namespace DevTools

/-! ## Setting the fields of objects -/

theorem lookup_setNamed_of_ne {name other : String} (differ : other ≠ name) (v : Value)
    (values : List (String × Value)) : (setNamed name v values).lookup other = values.lookup other := by
  induction values with
  | nil => simp [setNamed, List.lookup_cons, beq_false_of_ne differ]
  | cons entry rest ih =>
      rw [setNamed]
      split
      · rename_i same
        rw [List.lookup_cons, List.lookup_cons, beq_false_of_ne (eq_of_beq same ▸ differ)]
      · rw [List.lookup_cons, List.lookup_cons, ih]

theorem keys_setNamed {name : String} {v : Value} {values : List (String × Value)}
    (held : (values.lookup name).isSome = true) : (setNamed name v values).map (·.1) = values.map (·.1) := by
  induction values with
  | nil => cases held
  | cons entry rest ih =>
      rw [setNamed]
      split
      · rfl
      · rename_i differ
        rw [List.lookup_cons, BEq.comm, Bool.eq_false_iff.mpr differ] at held
        rw [List.map_cons, List.map_cons, ih held]

theorem Object.keys_assign (object : Object) (name : String) (v : Value) :
    (object.assign name v).fields.map (·.1) = object.fields.map (·.1) := by
  unfold assign
  split
  · rename_i held
    exact keys_setNamed held
  · rfl

theorem Object.lookup_assign (object : Object) (name other : String) (v : Value) :
    (object.assign name v).fields.lookup other =
      (object.fields.lookup other).map fun old => if other = name then v else old := by
  unfold assign
  by_cases same : other = name
  · subst same
    split
    · rename_i held
      obtain ⟨old, found⟩ := Option.isSome_iff_exists.mp held
      simp only [lookup_setNamed, found, Option.map_some, ↓reduceIte]
    · rename_i missing
      simp only [Option.not_isSome_iff_eq_none.mp missing, Option.map_none]
  · simp only [same, ↓reduceIte, Option.map_id']
    split
    · exact lookup_setNamed_of_ne same v object.fields
    · rfl

/-! ## Runs of assignments -/

structure Assignment where
  id : Nat
  field : String
  value : Value

def lastSet? (log : List Assignment) (id : Nat) (field : String) : Option Value :=
  (log.reverse.find? fun a => a.id == id && a.field == field).map (·.value)

theorem lastSet?_append (log last : List Assignment) (id : Nat) (field : String) :
    lastSet? (log ++ last) id field = (lastSet? last id field).or (lastSet? log id field) := by
  unfold lastSet?
  rw [List.reverse_append, List.find?_append]
  cases List.find? (fun a => a.id == id && a.field == field) last.reverse <;> rfl

structure Object.Follows (log : List Assignment) (id : Nat) (before after : Object) : Prop where
  names : after.fields.map (·.1) = before.fields.map (·.1)
  values : ∀ field, after.fields.lookup field =
    (before.fields.lookup field).map fun old => (lastSet? log id field).getD old

theorem Object.Follows.trans {log last : List Assignment} {id : Nat} {before between after : Object}
    (first : Follows log id before between) (second : Follows last id between after) :
    Follows (log ++ last) id before after where
  names := second.names.trans first.names
  values field := by
    rw [second.values, first.values, lastSet?_append, Option.map_map]
    cases lastSet? last id field <;> rfl

theorem Object.follows_nil (id : Nat) (object : Object) : Follows [] id object object :=
  ⟨rfl, fun field => by simp [lastSet?]⟩

theorem Object.follows_assign (object : Object) (assignment : Assignment) :
    Follows [assignment] assignment.id object (object.assign assignment.field assignment.value) where
  names := object.keys_assign _ _
  values field := by
    rw [object.lookup_assign]
    refine congrArg (Option.map · _) (funext fun old => ?_)
    by_cases same : field = assignment.field
    · simp [lastSet?, same]
    · simp [lastSet?, same, Ne.symm same]

namespace Session

/-- Every object goes on with the values that were set last, and every exchange as it is. -/
structure Follows (log : List Assignment) (s t : Session) : Prop where
  objects : ∀ id object, s.store.objects[id]? = some object →
    ∃ object', t.store.objects[id]? = some object' ∧ Object.Follows log id object object'
  exchanges : ∀ name e, s.exchange? name = some e → t.exchange? name = some e

def assign (s : Session) (id : Nat) (field : String) (w : Value) : Session :=
  { s with store := (s.store.adopt w).2.assign id field (s.store.adopt w).1 }

def assignments (s : Session) (name field : String) (w : Value) : List Assignment :=
  match s.bindings.lookup name with
  | some (.value (.object _ _ (some id)) _) => [⟨id, field, (s.store.adopt w).1⟩]
  | _ => []

inductive Assigns : Session → List Assignment → Session → Prop
  | named {s t : Session} {name field : String} {w : Value} : s.setField name field w = .ok t →
      Assigns s (s.assignments name field w) t
  | object (s : Session) (id : Nat) (field : String) (w : Value) :
      Assigns s [⟨id, field, (s.store.adopt w).1⟩] (s.assign id field w)

inductive AssignsAll : Session → List Assignment → Session → Prop
  | nil {s : Session} : AssignsAll s [] s
  | concat {s t u : Session} {log last : List Assignment} : AssignsAll s log t → Assigns t last u →
      AssignsAll s (log ++ last) u

variable {s t : Session}

theorem follows_assign (s : Session) (id : Nat) (field : String) (w : Value) :
    Follows [⟨id, field, (s.store.adopt w).1⟩] s (s.assign id field w) where
  objects other object held := by
    have kept := Store.objects_adopt w held
    by_cases same : other = id
    · subst same
      refine ⟨object.assign field (s.store.adopt w).1, ?_, object.follows_assign ⟨other, field, _⟩⟩
      simp [assign, Store.assign, Array.getElem?_modify, kept]
    · refine ⟨object, ?_, rfl, fun name => ?_⟩
      · simp [assign, Store.assign, Array.getElem?_modify, kept, Ne.symm same]
      · simp [lastSet?, Ne.symm same]
  exchanges _ _ bound := bound

theorem follows_of_objects_eq {w : Value} (same : t.store.objects = (s.store.adopt w).2.objects)
    (exchanges : ∀ name e, s.exchange? name = some e → t.exchange? name = some e) : Follows [] s t where
  objects id object held := by
    refine ⟨object, ?_, object.follows_nil id⟩
    rw [same]
    exact Store.objects_adopt w held
  exchanges := exchanges

theorem exchange?_bind_value {name other : String} {v : Value} {extras extras' : List (String × Value)}
    {e : Exchange} (held : s.bindings.lookup name = some (.value v extras))
    (bound : s.exchange? other = some e) : (s.bind name (.value v extras')).exchange? other = some e := by
  have differ : other ≠ name := by
    rintro rfl
    simp only [exchange?, held] at bound
    cases bound
  simp only [exchange?, bind, lookup_setBinding, differ, ↓reduceIte]
  exact bound

theorem follows_setField {name field : String} {w : Value} (set : s.setField name field w = .ok t) :
    Follows (s.assignments name field w) s t := by
  simp only [setField, adopt] at set
  split at set
  · rename_i v extras held
    have bound : s.bindings.lookup name = some (.value v extras) := held
    rw [assignments, bound]
    split at set
    · cases set
    · split at set
      · rename_i id _
        cases set
        exact follows_assign s id field w
      · split at set
        · cases set
        · cases set
          exact follows_of_objects_eq rfl fun _ _ bound => bound
      · cases set
        exact follows_of_objects_eq rfl fun _ _ => exchange?_bind_value bound
      · cases set
  · cases set

theorem Assigns.follows {log : List Assignment} (step : Assigns s log t) : Follows log s t := by
  cases step with
  | named set => exact follows_setField set
  | object id field w => exact follows_assign s id field w

theorem AssignsAll.follows {log : List Assignment} (run : AssignsAll s log t) : Follows log s t := by
  induction run with
  | nil => exact ⟨fun id object held => ⟨object, held, object.follows_nil id⟩, fun _ _ bound => bound⟩
  | concat _ step ih =>
      constructor
      · intro id object held
        obtain ⟨between, found, first⟩ := ih.objects id object held
        obtain ⟨after, found', second⟩ := step.follows.objects id between found
        exact ⟨after, found', first.trans second⟩
      · exact fun name e bound => step.follows.exchanges name e (ih.exchanges name e bound)

end Session

/-! ## Calls with the final arguments -/

theorem lookup_map_snd {f : Value → Value} (arguments : List (String × Value)) (name : String) :
    (arguments.map fun argument => (argument.1, f argument.2)).lookup name =
      (arguments.lookup name).map f := by
  induction arguments with
  | nil => rfl
  | cons argument rest ih =>
      rw [List.map_cons, List.lookup_cons, List.lookup_cons, ih]
      cases name == argument.1 <;> rfl

theorem Command.bind_map {c : Command} {positional : List Value} {named arguments : List (String × Value)}
    {f : Value → Value} (null : f .null = .null)
    (bound : c.signature.bind positional named = .ok arguments) :
    c.signature.bind (positional.map f) (named.map fun argument => (argument.1, f argument.2)) =
      .ok (Exchange.viewed f arguments) := by
  obtain ⟨fits, rfl⟩ := Command.bind_ok_iff.mp bound
  have names : (named.map fun argument => (argument.1, f argument.2)).map (·.1) = named.map (·.1) := by
    rw [List.map_map]
    rfl
  refine Command.bind_ok_iff.mpr ⟨?_, ?_⟩
  · constructor
    · exact List.forall_mem_map.mpr fits.known
    · rw [List.length_map]
      exact List.forall_mem_map.mpr fits.once
    · rw [List.length_map]
      exact fits.room
    · rw [List.length_map, names]
      exact fits.complete
  · have given : c.signature.arguments (positional.map f)
        (named.map fun argument => (argument.1, f argument.2)) =
          (c.signature.arguments positional named).map fun argument => (argument.1, f argument.2) := by
      rw [Signature.arguments, Signature.arguments, List.map_append, List.zip_map_right]
      rfl
    rw [Exchange.viewed, List.map_map, given]
    refine List.map_congr_left fun name _ => ?_
    show (name, f (((c.signature.arguments positional named).lookup name).getD .null)) = _
    rw [lookup_map_snd]
    cases (c.signature.arguments positional named).lookup name with
    | none => exact congrArg (name, ·) null
    | some v => rfl

namespace Store

variable {s : Store}

theorem Shows.items {items shown : List Value} (shows : s.Shows (.tuple items) (.tuple shown)) :
    items.map s.read = shown := by
  refine Value.tuple.inj ?_
  rw [← shows.read]
  exact (readTo_tuple s s.objects.size items).symm

theorem ShowsFields.read {fields shown : List (String × Value)} (shows : s.ShowsFields fields shown) :
    (fields.map fun field => (field.1, s.read field.2)) = shown :=
  map_eq_of_zip shows.length fun pair member =>
    Prod.ext (shows.names pair member) (shows.values pair member).read

end Store

/-! ## Requests without objects -/

namespace Command

open Protocol

def Takes (c : Command) (arguments : List (String × Value)) : Prop :=
  ∀ field ∈ c.parameters, Typed protocol (·.isObjectless = true) (fun _ => True)
    field.isOptional field.shape (argument arguments field)

theorem isObjectless_message {c : Command} {entries : List (Value × Value)}
    (objectless : (Value.dict entries).isObjectless = true) : (c.message entries).isObjectless = true := by
  unfold message
  cases c.parameters.isEmpty with
  | true => rfl
  | false =>
      refine Value.all_iff.mpr ⟨rfl, fun w member => ?_⟩
      simp only [Bool.false_eq_true, ↓reduceIte, Value.parts, List.flatMap_cons, List.flatMap_nil,
        List.append_nil, List.cons_append, List.nil_append, List.mem_cons, List.not_mem_nil, or_false] at member
      rcases member with rfl | rfl | rfl | rfl
      · rfl
      · rfl
      · rfl
      · exact objectless

theorem Takes.request {c : Command} {scope : String} {positional : List Value}
    {named arguments : List (String × Value)} (member : (scope, c) ∈ protocol.commands)
    (bound : c.signature.bind positional named = .ok arguments) (takes : c.Takes arguments) :
    ∃ m, c.request protocol arguments = .ok m ∧ m.isObjectless = true := by
  obtain ⟨entries, written⟩ := parameters_written member bound takes
  refine ⟨c.message entries, by rw [request_eq, written]; rfl, isObjectless_message ?_⟩
  refine Value.all_iff.mpr ⟨rfl, fun w inside => ?_⟩
  obtain ⟨entry, listed, side⟩ := Value.mem_parts_dict.mp inside
  obtain ⟨field, parameter, key, slot⟩ := mem_encodeFieldsWith written entry listed
  rcases side with rfl | rfl
  · rw [key]
    rfl
  · rw [encodeField_bind bound parameter] at slot
    obtain ⟨filled, shape⟩ := encodeSlot_some slot
    have data : ∀ v : Value, v.isData = true → v.isNoObject = true := by
      intro v isData
      cases v with
      | member type name wire => rfl
      | object type fields id => cases isData
      | _ => rfl
    exact (takes field parameter).all_written protocol_isRegular data (fun _ objectless => objectless)
      (parameter_writable member parameter) filled shape

end Command

/-! ## The statement -/

open Session

/-- A call that is sent its first null makes the request that a call with the objects as they are by then
would make, whatever was set since the call. Nothing that is set afterwards changes the request or what a
response is read as. -/
theorem request_fixed_by_first_send {scope function name : String} {c : Command}
    {positional finalPositional : List Value} {named finalNamed : List (String × Value)} {e : Exchange}
    {s t : Session} {log : List Assignment} (declared : protocol.command? scope function = some c)
    (called : Exchange.start c positional named = .ok e) (bound : s.exchange? name = some e)
    (between : AssignsAll s log t)
    (shown : t.store.Shows (.tuple positional) (.tuple finalPositional))
    (shownNamed : t.store.ShowsFields named finalNamed) :
    (∀ id object, s.store.objects[id]? = some object →
      ∃ object', t.store.objects[id]? = some object' ∧ Object.Follows log id object object') ∧
    ∃ final, Exchange.start c finalPositional finalNamed = .ok (.called c final) ∧
      (c.Takes final → ∃ m,
        (Exchange.called c final).resume protocol .null = (.request m, .requested c) ∧
        t.exchange? name = some e ∧ (t.resume protocol name .null e).1 = .request m ∧
        ∀ later u, AssignsAll (t.resume protocol name .null e).2 later u →
          u.view m = m ∧ u.exchange? name = some (.requested c) ∧
          ∀ response, (u.resume protocol name response (.requested c)).1 =
            ((t.resume protocol name .null e).2.resume protocol name response (.requested c)).1) := by
  obtain ⟨arguments, fitting, rfl⟩ := start_ok called
  have null : t.view .null = .null := t.store.readTo_leaf _ rfl
  have viewed : positional.map t.view = finalPositional := shown.items
  have viewedNamed : (named.map fun argument => (argument.1, t.view argument.2)) = finalNamed :=
    shownNamed.read
  have final := Command.bind_map null fitting
  rw [viewed, viewedNamed] at final
  refine ⟨between.follows.objects, Exchange.viewed t.view arguments, ?_, fun takes => ?_⟩
  · rw [Exchange.start, final]
    rfl
  obtain ⟨m, written, objectless⟩ := takes.request (Protocol.mem_commands declared).1 final
  have sent : (Exchange.called c (Exchange.viewed t.view arguments)).resume protocol .null =
      (.request m, .requested c) := by
    simp only [Exchange.resume, Value.isNull, ↓reduceIte, written]
  have resumed : t.resume protocol name .null (.called c arguments) =
      (.request m, t.bind name (.exchange (.requested c))) := by
    simp only [Session.resume, Exchange.mapArguments]
    exact congrArg (fun reply => (reply.1, t.bind name (.exchange reply.2))) sent
  refine ⟨m, sent, between.follows.exchanges name _ bound, by rw [resumed], fun later u after => ?_⟩
  rw [resumed] at after ⊢
  refine ⟨(u.store.shows_self objectless).read, after.follows.exchanges name _ ?_, fun response => rfl⟩
  simp only [exchange?_bind, ↓reduceIte]

def dispatchDrag : Command :=
  { name := "dispatch_drag_event", method := "Input.dispatchDragEvent",
    parameters :=
      [ .required "type_" "type" (.one .text),
        .required "x" "x" (.one .number),
        .required "y" "y" (.one .number),
        .required "data" "data" (.one (.ref "input_" "DragData")),
        .optional "modifiers" "modifiers" (.one .integer) ],
    returns := [] }

def dragItem (data : String) : List (String × Value) :=
  [("mime_type", .text "text/plain"), ("data", .text data), ("title", .null), ("base_url", .null)]

def dragData (data : String) : List (String × Value) :=
  [ ("items", .list [.object ⟨"input_", "DragDataItem"⟩ (dragItem data) (some 0)]),
    ("drag_operations_mask", .int 1), ("files", .null) ]

def dragArguments (data : String) : List Value :=
  [ .text "drop", .float (.zero false), .float (.zero false),
    .object ⟨"input_", "DragData"⟩ (dragData data) (some 1) ]

def dragCall (data : String) : List (String × Value) :=
  ["type_", "x", "y", "data", "modifiers"].zip (dragArguments data ++ [.null])

-- The item and the data are objects of their own, and the call is waiting.
def dragging : Session where
  store := { objects := #[⟨dragItem "old", []⟩, ⟨dragData "old", []⟩] }
  registry := []
  bindings :=
    [ ("item", .value (.object ⟨"input_", "DragDataItem"⟩ (dragItem "old") (some 0)) []),
      ("data", .value (.object ⟨"input_", "DragData"⟩ (dragData "old") (some 1)) []),
      ("call", .exchange (.called dispatchDrag (dragCall "old"))) ]

theorem dragArguments_shown : (dragging.assign 0 "data" (.text "new")).store.Shows
    (.tuple (dragArguments "old")) (.tuple (dragArguments "new")) := by
  have item : (dragging.assign 0 "data" (.text "new")).store.Shows
      (.object ⟨"input_", "DragDataItem"⟩ (dragItem "old") (some 0))
      (.object ⟨"input_", "DragDataItem"⟩ (dragItem "new") (some 0)) := by
    refine @Store.Shows.object _ _ _ _ 0 ⟨dragItem "new", []⟩ rfl rfl (by decide) ?_
    simp only [dragItem, List.zip_cons_cons, List.zip_nil_left, List.forall_mem_cons]
    exact ⟨.leaf rfl, .leaf rfl, .leaf rfl, .leaf rfl, by simp⟩
  have data : (dragging.assign 0 "data" (.text "new")).store.Shows
      (.object ⟨"input_", "DragData"⟩ (dragData "old") (some 1))
      (.object ⟨"input_", "DragData"⟩ (dragData "new") (some 1)) := by
    refine @Store.Shows.object _ _ _ _ 1 ⟨dragData "old", []⟩ rfl rfl (by decide) ?_
    simp only [dragData, List.zip_cons_cons, List.zip_nil_left, List.forall_mem_cons]
    exact ⟨.list rfl (by simpa using item), .leaf rfl, .leaf rfl, by simp⟩
  refine .tuple rfl ?_
  simp only [dragArguments, List.zip_cons_cons, List.zip_nil_left, List.forall_mem_cons]
  exact ⟨.leaf rfl, .leaf rfl, .leaf rfl, data, by simp⟩

theorem dispatchDrag_takes : dispatchDrag.Takes (dragCall "new") := by
  simp only [Command.Takes, dispatchDrag, List.forall_mem_cons]
  have item : Protocol.Typed protocol (·.isObjectless = true) (fun _ => True) false
      (.one (.ref "input_" "DragDataItem"))
      (.object ⟨"input_", "DragDataItem"⟩ (dragItem "new") (some 0)) := by
    refine .object trivial rfl rfl ?_
    simp only [dragItem, List.zip_cons_cons, List.zip_nil_left, List.forall_mem_cons]
    exact ⟨.primitive rfl rfl, .primitive rfl rfl, .missing, .missing, by simp⟩
  refine ⟨.primitive rfl rfl, .primitive rfl rfl, .primitive rfl rfl, .object trivial rfl rfl ?_, .missing,
    by simp⟩
  simp only [dragData, List.zip_cons_cons, List.zip_nil_left, List.forall_mem_cons]
  exact ⟨.list (by simpa using item), .primitive rfl rfl, .missing, by simp⟩

theorem request_fixed_by_first_send_dragging :
    ∃ t, dragging.setField "item" "data" (.text "new") = .ok t ∧
    ∃ e, dragging.exchange? "call" = some e ∧
    ∃ m, (t.resume protocol "call" .null e).1 = .request m ∧
      (m = .dict [(.text "method", .text "Input.dispatchDragEvent"), (.text "params", .dict
        [ (.text "type", .text "drop"), (.text "x", .float (.zero false)), (.text "y", .float (.zero false)),
          (.text "data", .dict
            [ (.text "items", .list [.dict [(.text "mimeType", .text "text/plain"),
                (.text "data", .text "new")]]),
              (.text "dragOperationsMask", .int 1) ]) ])]) ∧
      ∃ u, (t.resume protocol "call" .null e).2.setField "data" "items" (.int 5) = .ok u ∧
        u.view m = m ∧ u.exchange? "call" = some (.requested dispatchDrag) := by
  have declared : protocol.command? "input_" "dispatch_drag_event" = some dispatchDrag := rfl
  have called : Exchange.start dispatchDrag (dragArguments "old") [] =
      .ok (.called dispatchDrag (dragCall "old")) := rfl
  have bound : dragging.exchange? "call" = some (.called dispatchDrag (dragCall "old")) := rfl
  have set : dragging.setField "item" "data" (.text "new") =
      .ok (dragging.assign 0 "data" (.text "new")) := rfl
  obtain ⟨-, final, made, fixed⟩ := request_fixed_by_first_send declared called bound
    (.concat .nil (.named set)) dragArguments_shown ⟨rfl, by simp, by simp⟩
  cases made
  obtain ⟨m, sent, -, yielded, later⟩ := fixed dispatchDrag_takes
  refine ⟨_, set, _, bound, m, yielded, (Reply.request.inj (congrArg Prod.fst sent)).symm, ?_⟩
  have setLater : ((dragging.assign 0 "data" (.text "new")).resume protocol "call" .null
      (.called dispatchDrag (dragCall "old"))).2.setField "data" "items" (.int 5) = .ok _ := rfl
  obtain ⟨same, waiting, -⟩ := later _ _ (.concat .nil (.named setLater))
  exact ⟨_, setLater, same, waiting⟩

end DevTools
