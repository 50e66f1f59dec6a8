import DevTools.Schema

namespace DevTools.Domain.EventBreakpoints

def types : List Declaration := []

def commands : List Command :=
  [ { name := "set_instrumentation_breakpoint",
      method := "EventBreakpoints.setInstrumentationBreakpoint",
      parameters :=
        [ .required "event_name" "eventName" (.one .text) ],
      returns := [] },
    { name := "remove_instrumentation_breakpoint",
      method := "EventBreakpoints.removeInstrumentationBreakpoint",
      parameters :=
        [ .required "event_name" "eventName" (.one .text) ],
      returns := [] } ]

def events : List Event := []

def domain : DevTools.Domain where
  name := "EventBreakpoints"
  scope := "event_breakpoints"
  types := types
  commands := commands
  events := events

end DevTools.Domain.EventBreakpoints
