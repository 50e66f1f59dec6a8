import DevTools.Schema

namespace DevTools.Domain.Console

def types : List Declaration :=
  [ .record "ConsoleMessage"
      [ .required "source" "source" (.one .text),
        .required "level" "level" (.one .text),
        .required "text" "text" (.one .text),
        .optional "url" "url" (.one .text),
        .optional "line" "line" (.one .integer),
        .optional "column" "column" (.one .integer) ] ]

def commands : List Command :=
  [ { name := "clear_messages", method := "Console.clearMessages",
      parameters := [],
      returns := [] },
    { name := "disable", method := "Console.disable",
      parameters := [],
      returns := [] },
    { name := "enable", method := "Console.enable",
      parameters := [],
      returns := [] } ]

def events : List Event :=
  [ { name := "MessageAdded", method := "Console.messageAdded",
      fields :=
        [ .required "message" "message" (.one (.ref "console" "ConsoleMessage")) ] } ]

def domain : DevTools.Domain where
  name := "Console"
  scope := "console"
  types := types
  commands := commands
  events := events

end DevTools.Domain.Console
