import DevTools.Value.Literal

namespace DevTools

inductive Fault where
  | missingKey (key : Value)
  | notSubscriptable (kind : String)
  | textSubscript
  | sequenceSubscript (kind : String)
  | notSearchable (kind : String)
  | notIterable (kind : String)
  | notMember (value : Value) (enumeration : String)
  | malformedInteger (radix : Nat) (value : Value)
  | longInteger (digits : Nat)
  | longNumeral
  | notInteger (kind : String)
  | notIndex (kind : String)
  | nanAsInteger
  | infinityAsInteger
  | malformedNumber (value : Value)
  | notNumber (kind : String)
  | integerOutOfRange
  | entryNotSequence (index : Nat)
  | entryLength (index length : Nat)
  | unhashable (kind : String)
  | noAttribute (kind name : String)
  | readOnlyAttribute (name : String)
  | fixedPart (number name : String)
  | missingArguments (function : String) (names : List String)
  | unknownArgument (function name : String)
  | repeatedArgument (function name : String)
  /-- `least` and `most` bound the number of positional arguments; `namedOnly` counts the given ones
  that have no position. -/
  | surplusArguments (function : String) (least most given namedOnly : Nat)
  | keywordsRefused (base : String)
  | keywordRefused (base name : String)
  | surplusBaseArguments (base : String) (given : Nat)
  /-- `most` is the number of options, and `allNamed` tells whether those given are all named. -/
  | surplusOptions (base : String) (most given : Nat) (allNamed : Bool)
  | repeatedOption (base name : String) (position : Nat)
  | optionNotText (base name kind : String)
  | embeddedNull
  | textWithEncoding
  | notBytes (kind : String)
  | missingNumeral
  | radixOutOfRange
  | radixOfNonText
  | notExtensible (name : Value) (enumeration : String)
  | notStarted
  | undefinedName (name : String)
  | overqualifiedReference
  | unsupportedVersion
  | indexOutOfRange
  | indexOverflow
  | notMultiplier (kind : String)
  | nameNotText (kind : String)
  | refusesText (kind : String)
  | notAppendable (kind : String)

namespace Fault

inductive Kind where
  | key | type | value | overflow | attribute | name | index | assertion
deriving DecidableEq

def kind : Fault → Kind
  | missingKey _ => .key
  | notMember _ _ | malformedInteger _ _ | longInteger _ | longNumeral | nanAsInteger | malformedNumber _
  | entryLength _ _ | embeddedNull | radixOutOfRange | overqualifiedReference => .value
  | infinityAsInteger | integerOutOfRange | indexOverflow => .overflow
  | noAttribute _ _ | readOnlyAttribute _ | fixedPart _ _ => .attribute
  | undefinedName _ => .name
  | indexOutOfRange => .index
  | unsupportedVersion => .assertion
  | _ => .type

def quoteName (name : String) : String :=
  "'" ++ name ++ "'"

def enumerate : List String → String
  | [] => ""
  | [a] => quoteName a
  | [a, b] => quoteName a ++ " and " ++ quoteName b
  | a :: rest => quoteName a ++ ", " ++ enumerateRest rest
where
  enumerateRest : List String → String
    | [] => ""
    | [a] => "and " ++ quoteName a
    | a :: rest => quoteName a ++ ", " ++ enumerateRest rest

def plural (n : Nat) : String :=
  if n = 1 then "" else "s"

def literalLimit : Nat := 200

def message : Fault → String
  | missingKey key => key.literal
  | notSubscriptable kind => quoteName kind ++ " object is not subscriptable"
  | textSubscript => "string indices must be integers, not 'str'"
  | sequenceSubscript kind => kind ++ " indices must be integers or slices, not str"
  | notSearchable kind => "argument of type " ++ quoteName kind ++ " is not iterable"
  | notIterable kind => quoteName kind ++ " object is not iterable"
  | notMember value enumeration => value.literal ++ " is not a valid " ++ enumeration
  | malformedInteger radix value =>
    "invalid literal for int() with base " ++ toString radix ++ ": " ++
      String.ofList (value.literal.toList.take literalLimit)
  | longInteger digits =>
    "Exceeds the limit (4300 digits) for integer string conversion: value has " ++
      toString digits ++ " digits; use sys.set_int_max_str_digits() to increase the limit"
  | longNumeral =>
    "Exceeds the limit (4300 digits) for integer string conversion; " ++
      "use sys.set_int_max_str_digits() to increase the limit"
  | notInteger kind =>
    "int() argument must be a string, a bytes-like object or a real number, not " ++ quoteName kind
  | notIndex kind => quoteName kind ++ " object cannot be interpreted as an integer"
  | nanAsInteger => "cannot convert float NaN to integer"
  | infinityAsInteger => "cannot convert float infinity to integer"
  | malformedNumber value => "could not convert string to float: " ++ value.literal
  | notNumber kind => "float() argument must be a string or a real number, not " ++ quoteName kind
  | integerOutOfRange => "int too large to convert to float"
  | entryNotSequence index =>
    "cannot convert dictionary update sequence element #" ++ toString index ++ " to a sequence"
  | entryLength index length =>
    "dictionary update sequence element #" ++ toString index ++ " has length " ++
      toString length ++ "; 2 is required"
  | unhashable kind => "unhashable type: " ++ quoteName kind
  | noAttribute kind name => quoteName kind ++ " object has no attribute " ++ quoteName name
  | readOnlyAttribute name => "<enum 'Enum'> cannot set attribute " ++ quoteName name
  | fixedPart number name =>
    "attribute " ++ quoteName name ++ " of " ++ quoteName number ++ " objects is not writable"
  | missingArguments function names =>
    function ++ "() missing " ++ toString names.length ++ " required positional argument" ++
      plural names.length ++ ": " ++ enumerate names
  | unknownArgument function name =>
    function ++ "() got an unexpected keyword argument " ++ quoteName name
  | repeatedArgument function name =>
    function ++ "() got multiple values for argument " ++ quoteName name
  | surplusArguments function least most given namedOnly =>
    let takes :=
      if least = most then toString most ++ " positional argument" ++ plural most
      else "from " ++ toString least ++ " to " ++ toString most ++ " positional arguments"
    let further :=
      if namedOnly = 0 then ""
      else " positional argument" ++ plural given ++ " (and " ++ toString namedOnly ++
        " keyword-only argument" ++ plural namedOnly ++ ")"
    function ++ "() takes " ++ takes ++ " but " ++ toString given ++ further ++
      (if given = 1 && namedOnly = 0 then " was given" else " were given")
  | keywordsRefused base => base ++ "() takes no keyword arguments"
  | keywordRefused base name =>
    quoteName name ++ " is an invalid keyword argument for " ++ base ++ "()"
  | surplusBaseArguments base given =>
    base ++ " expected at most 1 argument, got " ++ toString given
  | surplusOptions base most given allNamed =>
    base ++ "() takes at most " ++ toString most ++
      (if allNamed then " keyword" else "") ++ " arguments (" ++ toString given ++ " given)"
  | repeatedOption base name position =>
    "argument for " ++ base ++ "() given by name (" ++ quoteName name ++ ") and position (" ++
      toString position ++ ")"
  | optionNotText base name kind =>
    base ++ "() argument " ++ quoteName name ++ " must be str, not " ++ kind
  | embeddedNull => "embedded null character"
  | textWithEncoding => "decoding str is not supported"
  | notBytes kind => "decoding to str: need a bytes-like object, " ++ kind ++ " found"
  | missingNumeral => "int() missing string argument"
  | radixOutOfRange => "int() base must be >= 2 and <= 36, or 0"
  | radixOfNonText => "int() can't convert non-string with explicit base"
  | notExtensible name enumeration =>
    "<enum " ++ name.literal ++ "> cannot extend <enum " ++ quoteName enumeration ++ ">"
  | notStarted => "can't send non-None value to a just-started generator"
  | undefinedName name => "name " ++ quoteName name ++ " is not defined"
  | overqualifiedReference => "too many values to unpack (expected 2)"
  | unsupportedVersion => ""
  | indexOutOfRange => "list index out of range"
  | indexOverflow => "cannot fit 'int' into an index-sized integer"
  | notMultiplier kind => "can't multiply sequence by non-int of type " ++ quoteName kind
  | nameNotText kind => "attribute name must be string, not " ++ quoteName kind
  | refusesText kind =>
    "unsupported operand type(s) for +=: " ++ quoteName kind ++ " and 'str'"
  | notAppendable kind => "can only concatenate str (not \"" ++ kind ++ "\") to str"

end Fault

end DevTools
