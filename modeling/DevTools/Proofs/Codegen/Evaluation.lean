import DevTools.Codec.Decode
import DevTools.Proofs.Codegen.Grammar

namespace DevTools.Codegen

inductive Meaning where
  | value (v : Value)
  | type (type : TypeName)
  | decoder (type : TypeName)
  | conversion (kind : Primitive)

inductive Failure where
  | fault (fault : Fault)
  | notCallable (v : Value)
  | foreign

/-- Names are compared in a normal form, which concerns only names that are not plain ASCII. -/
structure Naming where
  normal : String → String
  ascii : ∀ s : String, s.toList.all (·.toNat < 128) = true → normal s = s

abbrev Scope := String → Option Meaning

def Scope.bind (scope : Scope) (name : String) (m : Meaning) : Scope :=
  fun other => if other = name then some m else scope other

def orFail {α : Type} : Except Fault α → Except Failure α
  | .ok a => .ok a
  | .error fault => .error (.fault fault)

namespace Meaning

def toValue : Meaning → Except Failure Value
  | value v => .ok v
  | _ => .error .foreign

def decoderOf : Meaning → Except Failure Meaning
  | type t => .ok (decoder t)
  | value (.wrapped t _) => .ok (decoder t)
  | value (.member t _ _) => .ok (decoder t)
  | value (.object t _ _) => .ok (decoder t)
  | value v => .error (.fault (.noAttribute v.kindName "from_json"))
  | _ => .error .foreign

def call (p : Protocol) (v : Value) : Meaning → Except Failure Value
  | decoder t => orFail (p.decode t v)
  | conversion kind => orFail (kind.convert v)
  | value f => .error (.notCallable f)
  | type _ => .error .foreign

end Meaning

variable (p : Protocol) (naming : Naming)

mutual

def Test.eval : Test → Scope → Except Failure Meaning
  | .plain value, scope => value.eval scope
  | .choice value key dict otherwise, scope => do
    let v ← (← dict.eval scope).toValue
    if ← orFail (v.holds key) then value.eval scope else otherwise.eval scope
termination_by structural t => t

def Primary.eval : Primary → Scope → Except Failure Meaning
  | .mk atom trailers, scope => do trailers.eval scope (← atom.eval scope)
termination_by structural t => t

def Atom.eval : Atom → Scope → Except Failure Meaning
  | .name s, scope =>
    match scope (naming.normal s) with
    | some m => .ok m
    | none => .error (.fault (.undefinedName s))
  | .none, _ => .ok (.value .null)
  | .each body item source, scope => do
    let v ← (← source.eval scope).toValue
    let items ← orFail v.items
    let values ← items.mapM fun x => do
      (← body.eval (scope.bind (naming.normal item) (.value x))).toValue
    return .value (.list values)
termination_by structural t => t

/-- The function is looked at before the argument, and called when the argument is known. -/
def Trailers.eval : Trailers → Scope → Meaning → Except Failure Meaning
  | .nil, _, m => .ok m
  | .entry key rest, scope, m => do
    let v ← m.toValue
    rest.eval scope (.value (← orFail (v.entry key)))
  | .call argument rest, scope, m => do
    let v ← (← argument.eval scope).toValue
    rest.eval scope (.value (← m.call p v))
  | .decoder rest, scope, m => do
    rest.eval scope (← m.decoderOf)
termination_by structural t => t

end

end DevTools.Codegen
