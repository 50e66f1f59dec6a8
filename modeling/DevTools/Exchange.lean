import DevTools.Call
import DevTools.Codec.Decode
import DevTools.Codec.Encode

/-!
# Exchanges

Running a command is an exchange with the browser. Calling the command only binds its arguments. The
request is written when it is first asked for, from the arguments as they are by then; the response
that is sent next is read into the result. After that the exchange is finished.
-/

namespace DevTools

namespace Command

def signature (c : Command) : Signature :=
  .ofFields c.name none c.parameters

def notices (c : Command) : List Notice :=
  if c.deprecated then [.deprecatedCommand c.name] else []

/-- The request of a command. It has parameters if the command declares some, even if none is
written. -/
def request (p : Protocol) (c : Command) (arguments : List (String × Value)) :
    Except Fault Value := do
  let entries ← p.encodeFields c.parameters arguments
  let method := (.text "method", .text c.method)
  if c.parameters.isEmpty then return .dict [method]
  else return .dict [method, (.text "params", .dict entries)]

def resultOf : List Value → Value
  | [] => .null
  | [v] => v
  | vs => .tuple vs

/-- The result of a command. A command that returns nothing does not look at the response. -/
def result (p : Protocol) (c : Command) (response : Value) : Except Fault Value := do
  return resultOf (← p.decodeSlots c.returns response)

end Command

inductive Exchange where
  | called (command : Command) (arguments : List (String × Value))
  | requested (command : Command)
  | finished

inductive Reply where
  | request (message : Value)
  | result (value : Value)
  | fault (fault : Fault)

namespace Exchange

def start (c : Command) (positional : List Value) (named : List (String × Value)) :
    Except Fault Exchange := do
  return .called c (← c.signature.bind positional named)

/-- Resumes an exchange, sending it a value. An exchange that has only been called takes nothing but
null, and stays as it is otherwise. -/
def resume (p : Protocol) (sent : Value) : Exchange → Reply × Exchange
  | called c arguments =>
    if sent.isNull then
      match c.request p arguments with
      | .ok message => (.request message, requested c)
      | .error fault => (.fault fault, finished)
    else (.fault .notStarted, called c arguments)
  | requested c =>
    match c.result p sent with
    | .ok value => (.result value, finished)
    | .error fault => (.fault fault, finished)
  | finished => (.result .null, finished)

def close (_ : Exchange) : Exchange :=
  finished

def mapArguments (f : Value → Value) : Exchange → Exchange
  | called c arguments => called c (arguments.map fun (name, v) => (name, f v))
  | exchange => exchange

end Exchange

end DevTools
