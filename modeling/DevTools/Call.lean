import DevTools.Fault
import DevTools.Schema

namespace DevTools

/-- What a call is checked against. The parameters without default come first. What is called may
itself be passed as a first argument, the receiver. Parameters that are only given by name are
optional. -/
structure Signature where
  function : String
  receiver : Option String
  required : List String
  optional : List String
  namedOnly : List String := []

namespace Signature

def parameters (s : Signature) : List String :=
  s.required ++ s.optional

def receivers (s : Signature) : Nat :=
  s.receiver.toList.length

def ofFields (function : String) (receiver : Option String) (fields : List Field) :
    Signature where
  function := function
  receiver := receiver
  required := (fields.filter (!·.isOptional)).map (·.name)
  optional := (fields.filter (·.isOptional)).map (·.name)

def checkNamed (s : Signature) (positional : List String) :
    List (String × Value) → Except Fault Unit
  | [] => .ok ()
  | (name, _) :: rest =>
    if s.receiver == some name || positional.contains name then
      .error (.repeatedArgument s.function name)
    else if s.parameters.contains name || s.namedOnly.contains name then
      checkNamed s positional rest
    else .error (.unknownArgument s.function name)

/-- The value of each parameter. A named argument that does not fit is noticed first, then a surplus
of positional arguments, then what is missing. -/
def bind (s : Signature) (positional : List Value) (named : List (String × Value)) :
    Except Fault (List (String × Value)) := do
  let given := s.parameters.zip positional
  s.checkNamed (given.map (·.1)) named
  if s.parameters.length < positional.length then
    .error (.surplusArguments s.function (s.required.length + s.receivers)
      (s.parameters.length + s.receivers) (positional.length + s.receivers)
      (named.filter fun (name, _) => s.namedOnly.contains name).length)
  else
    let arguments := given ++ named
    let missing := s.required.filter fun name => (arguments.lookup name).isNone
    if missing.isEmpty then
      .ok ((s.parameters ++ s.namedOnly).map fun name =>
        (name, (arguments.lookup name).getD .null))
    else .error (.missingArguments s.function missing)

end Signature

inductive Notice where
  | deprecatedCommand (name : String)
  | deprecatedEvent (name : String)
deriving DecidableEq

def Notice.text : Notice → String
  | .deprecatedCommand name =>
    "Call to deprecated function (or staticmethod) " ++ name ++ ". -- Deprecated since version 1.3."
  | .deprecatedEvent name =>
    "Call to deprecated class " ++ name ++ ". -- Deprecated since version 1.3."

end DevTools
