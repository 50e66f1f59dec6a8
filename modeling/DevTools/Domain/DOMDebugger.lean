import DevTools.Schema

namespace DevTools.Domain.DOMDebugger

def types : List Declaration :=
  [ .enumeration "DOMBreakpointType"
      [ ("SUBTREE_MODIFIED", "subtree-modified"), ("ATTRIBUTE_MODIFIED", "attribute-modified"),
        ("NODE_REMOVED", "node-removed") ],
    .enumeration "CSPViolationType"
      [ ("TRUSTEDTYPE_SINK_VIOLATION", "trustedtype-sink-violation"),
        ("TRUSTEDTYPE_POLICY_VIOLATION", "trustedtype-policy-violation") ],
    .record "EventListener"
      [ .required "type_" "type" (.one .text),
        .required "use_capture" "useCapture" (.one .boolean),
        .required "passive" "passive" (.one .boolean),
        .required "once" "once" (.one .boolean),
        .required "script_id" "scriptId" (.one (.ref "runtime" "ScriptId")),
        .required "line_number" "lineNumber" (.one .integer),
        .required "column_number" "columnNumber" (.one .integer),
        .optional "handler" "handler" (.one (.ref "runtime" "RemoteObject")),
        .optional "original_handler" "originalHandler" (.one (.ref "runtime" "RemoteObject")),
        .optional "backend_node_id" "backendNodeId" (.one (.ref "dom" "BackendNodeId")) ] ]

def commands : List Command :=
  [ { name := "get_event_listeners", method := "DOMDebugger.getEventListeners",
      parameters :=
        [ .required "object_id" "objectId" (.one (.ref "runtime" "RemoteObjectId")),
          .optional "depth" "depth" (.one .integer),
          .optional "pierce" "pierce" (.one .boolean) ],
      returns :=
        [ .required "listeners" (.many (.ref "dom_debugger" "EventListener")) ] },
    { name := "remove_dom_breakpoint", method := "DOMDebugger.removeDOMBreakpoint",
      parameters :=
        [ .required "node_id" "nodeId" (.one (.ref "dom" "NodeId")),
          .required "type_" "type" (.one (.ref "dom_debugger" "DOMBreakpointType")) ],
      returns := [] },
    { name := "remove_event_listener_breakpoint",
      method := "DOMDebugger.removeEventListenerBreakpoint",
      parameters :=
        [ .required "event_name" "eventName" (.one .text),
          .optional "target_name" "targetName" (.one .text) ],
      returns := [] },
    { name := "remove_instrumentation_breakpoint",
      method := "DOMDebugger.removeInstrumentationBreakpoint",
      parameters :=
        [ .required "event_name" "eventName" (.one .text) ],
      returns := [] },
    { name := "remove_xhr_breakpoint", method := "DOMDebugger.removeXHRBreakpoint",
      parameters :=
        [ .required "url" "url" (.one .text) ],
      returns := [] },
    { name := "set_break_on_csp_violation", method := "DOMDebugger.setBreakOnCSPViolation",
      parameters :=
        [ .required "violation_types" "violationTypes"
            (.many (.ref "dom_debugger" "CSPViolationType")) ],
      returns := [] },
    { name := "set_dom_breakpoint", method := "DOMDebugger.setDOMBreakpoint",
      parameters :=
        [ .required "node_id" "nodeId" (.one (.ref "dom" "NodeId")),
          .required "type_" "type" (.one (.ref "dom_debugger" "DOMBreakpointType")) ],
      returns := [] },
    { name := "set_event_listener_breakpoint",
      method := "DOMDebugger.setEventListenerBreakpoint",
      parameters :=
        [ .required "event_name" "eventName" (.one .text),
          .optional "target_name" "targetName" (.one .text) ],
      returns := [] },
    { name := "set_instrumentation_breakpoint",
      method := "DOMDebugger.setInstrumentationBreakpoint",
      parameters :=
        [ .required "event_name" "eventName" (.one .text) ],
      returns := [] },
    { name := "set_xhr_breakpoint", method := "DOMDebugger.setXHRBreakpoint",
      parameters :=
        [ .required "url" "url" (.one .text) ],
      returns := [] } ]

def events : List Event := []

def domain : DevTools.Domain where
  name := "DOMDebugger"
  scope := "dom_debugger"
  types := types
  commands := commands
  events := events

end DevTools.Domain.DOMDebugger
