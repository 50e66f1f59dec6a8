import DevTools.Codec.Decode

namespace DevTools

abbrev Registry := List (Value × TypeName)

namespace Registry

def ofProtocol (p : Protocol) : Registry :=
  p.domains.flatMap fun d => d.events.map fun e => (.text e.method, ⟨d.scope, e.name⟩)

def put (method : Value) (type : TypeName) : Registry → Registry
  | [] => [(method, type)]
  | (m, t) :: rest => if m.agrees method then (m, type) :: rest else (m, t) :: put method type rest

def register (method : Value) (type : TypeName) (registry : Registry) :
    Except Fault (TypeName × Registry) :=
  match method.keyFault? with
  | some fault => .error fault
  | none => .ok (type, registry.put method type)

def find (method : Value) (registry : Registry) : Except Fault TypeName :=
  match method.keyFault? with
  | some fault => .error fault
  | none =>
    match registry.find? fun entry => entry.1.agrees method with
    | some entry => .ok entry.2
    | none => .error (.missingKey method)

/-- The type that an event is read as, and its parameters. The method is looked up before the
parameters are. -/
def route (registry : Registry) (event : Value) : Except Fault (TypeName × Value) := do
  let type ← registry.find (← event.entry "method")
  return (type, ← event.entry "params")

def decodeEvent (p : Protocol) (registry : Registry) (event : Value) : Except Fault Value := do
  let (type, params) ← registry.route event
  p.decode type params

theorem decodeEvent_eq_bind (p : Protocol) (registry : Registry) (event : Value) :
    registry.decodeEvent p event =
      ((event.entry "method" >>= registry.find) >>= fun type =>
        event.entry "params" >>= fun params => p.decode type params) := by
  unfold decodeEvent route
  cases event.entry "method" with
  | error fault => rfl
  | ok method =>
    cases found : registry.find method with
    | error fault => simp only [bind, Except.bind, found]
    | ok type => cases event.entry "params" <;> simp only [bind, Except.bind, pure, Except.pure, found]

def listing (registry : Registry) (domain : String) : List (String × TypeName) :=
  let start := (domain ++ ".").toList
  let methods := registry.filterMap fun (method, type) =>
    match method.core with
    | .text s => if start.isPrefixOf s.toList then some (s, type) else none
    | _ => none
  methods.mergeSort fun a b => !decide (b.1 < a.1)

end Registry

end DevTools
