import DevTools.Text.Lines
import DevTools.Text.Word
import DevTools.Value.Access

/-!
# Documentation comments

Descriptions become documentation in the generated code. In a description, code stands between
single backticks, or between bars that were meant as backticks; documentation wants double ones, with
something other than a word character behind them.

A text is cut at its backticks. The parts then alternate between text and code: an opening backtick
needs a closing one, and code is not empty.
-/

namespace DevTools.Codegen

def backtick : Char := '\x60'

def separateWord (text : List Char) : List Char :=
  match text.takeWhile Text.isWord with
  | [] => text
  | ['s'] => Text.apostrophe :: text
  | _ => ' ' :: text

def doubleBackticks : List (List Char) → List Char
  | [] => []
  -- No backtick is left to close the code.
  | [part] => backtick :: part
  | [] :: next :: rest => backtick :: doubleBackticks (next :: rest)
  | code :: next :: rest =>
    [backtick, backtick] ++ code ++ [backtick, backtick] ++ separateWord next ++
      doubleBackticks rest

def escapeChars (text : List Char) : List Char :=
  match (text.map fun c => if c = '|' then backtick else c).splitOn backtick with
  | [] => []
  | first :: rest => first ++ doubleBackticks rest

def escapeBackticks (text : String) : String :=
  String.ofList (escapeChars text.toList)

def inlineDocText (text : String) : String :=
  String.ofList (List.intercalate ['\n']
    (((escapeChars text.toList).splitOn '\n').map fun row => ['#', ':', ' '] ++ row))

def docstringText (text : String) : String :=
  "r'''\n" ++ escapeBackticks text ++ "\n'''"

def descriptionText : Value → Except Fault String
  | .text s => .ok s
  | v => .error (.noAttribute v.kindName "replace")

def descriptionText? (description : Value) : Except Fault (Option String) :=
  if description.truthy then some <$> descriptionText description else .ok none

def marginWidth (width : Value) : Except Fault Nat :=
  match width with
  | .bool b => .ok (if b then 1 else 0)
  | .int n =>
    let bound := Int.ofNat (Nat.pow 2 63)
    if -bound ≤ n && n < bound then .ok n.toNat else .error .indexOverflow
  | .text _ | .list _ => .error (.notMultiplier "str")
  | v => .error (.notMultiplier v.kindName)

def indentBy (text width : Value) : Except Fault String := do
  -- A width that is refused hides what is wrong with the text.
  let width ← marginWidth width
  match text with
  | .text s => return Text.indent width s
  | v => .error (.noAttribute v.kindName "splitlines")

def inlineDoc (description : Value) : Except Fault String := do
  return ((← descriptionText? description).map inlineDocText).getD ""

def docstring (description : Value) : Except Fault String := do
  return ((← descriptionText? description).map docstringText).getD ""

end DevTools.Codegen
