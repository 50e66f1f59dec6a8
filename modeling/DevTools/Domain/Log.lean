import DevTools.Schema

namespace DevTools.Domain.Log

def types : List Declaration :=
  [ .record "LogEntry"
      [ .required "source" "source" (.one .text),
        .required "level" "level" (.one .text),
        .required "text" "text" (.one .text),
        .required "timestamp" "timestamp" (.one (.ref "runtime" "Timestamp")),
        .optional "category" "category" (.one .text),
        .optional "url" "url" (.one .text),
        .optional "line_number" "lineNumber" (.one .integer),
        .optional "stack_trace" "stackTrace" (.one (.ref "runtime" "StackTrace")),
        .optional "network_request_id" "networkRequestId" (.one (.ref "network" "RequestId")),
        .optional "worker_id" "workerId" (.one .text),
        .optional "args" "args" (.many (.ref "runtime" "RemoteObject")) ],
    .record "ViolationSetting"
      [ .required "name" "name" (.one .text),
        .required "threshold" "threshold" (.one .number) ] ]

def commands : List Command :=
  [ { name := "clear", method := "Log.clear",
      parameters := [],
      returns := [] },
    { name := "disable", method := "Log.disable",
      parameters := [],
      returns := [] },
    { name := "enable", method := "Log.enable",
      parameters := [],
      returns := [] },
    { name := "start_violations_report", method := "Log.startViolationsReport",
      parameters :=
        [ .required "config" "config" (.many (.ref "log" "ViolationSetting")) ],
      returns := [] },
    { name := "stop_violations_report", method := "Log.stopViolationsReport",
      parameters := [],
      returns := [] } ]

def events : List Event :=
  [ { name := "EntryAdded", method := "Log.entryAdded",
      fields :=
        [ .required "entry" "entry" (.one (.ref "log" "LogEntry")) ] } ]

def domain : DevTools.Domain where
  name := "Log"
  scope := "log"
  types := types
  commands := commands
  events := events

end DevTools.Domain.Log
