import DevTools.Schema

namespace DevTools.Domain.Profiler

def types : List Declaration :=
  [ .record "ProfileNode"
      [ .required "id_" "id" (.one .integer),
        .required "call_frame" "callFrame" (.one (.ref "runtime" "CallFrame")),
        .optional "hit_count" "hitCount" (.one .integer),
        .optional "children" "children" (.many .integer),
        .optional "deopt_reason" "deoptReason" (.one .text),
        .optional "position_ticks" "positionTicks" (.many (.ref "profiler" "PositionTickInfo")) ],
    .record "Profile"
      [ .required "nodes" "nodes" (.many (.ref "profiler" "ProfileNode")),
        .required "start_time" "startTime" (.one .number),
        .required "end_time" "endTime" (.one .number),
        .optional "samples" "samples" (.many .integer),
        .optional "time_deltas" "timeDeltas" (.many .integer) ],
    .record "PositionTickInfo"
      [ .required "line" "line" (.one .integer),
        .required "ticks" "ticks" (.one .integer) ],
    .record "CoverageRange"
      [ .required "start_offset" "startOffset" (.one .integer),
        .required "end_offset" "endOffset" (.one .integer),
        .required "count" "count" (.one .integer) ],
    .record "FunctionCoverage"
      [ .required "function_name" "functionName" (.one .text),
        .required "ranges" "ranges" (.many (.ref "profiler" "CoverageRange")),
        .required "is_block_coverage" "isBlockCoverage" (.one .boolean) ],
    .record "ScriptCoverage"
      [ .required "script_id" "scriptId" (.one (.ref "runtime" "ScriptId")),
        .required "url" "url" (.one .text),
        .required "functions" "functions" (.many (.ref "profiler" "FunctionCoverage")) ],
    .record "TypeObject"
      [ .required "name" "name" (.one .text) ],
    .record "TypeProfileEntry"
      [ .required "offset" "offset" (.one .integer),
        .required "types" "types" (.many (.ref "profiler" "TypeObject")) ],
    .record "ScriptTypeProfile"
      [ .required "script_id" "scriptId" (.one (.ref "runtime" "ScriptId")),
        .required "url" "url" (.one .text),
        .required "entries" "entries" (.many (.ref "profiler" "TypeProfileEntry")) ] ]

def commands : List Command :=
  [ { name := "disable", method := "Profiler.disable",
      parameters := [],
      returns := [] },
    { name := "enable", method := "Profiler.enable",
      parameters := [],
      returns := [] },
    { name := "get_best_effort_coverage", method := "Profiler.getBestEffortCoverage",
      parameters := [],
      returns :=
        [ .required "result" (.many (.ref "profiler" "ScriptCoverage")) ] },
    { name := "set_sampling_interval", method := "Profiler.setSamplingInterval",
      parameters :=
        [ .required "interval" "interval" (.one .integer) ],
      returns := [] },
    { name := "start", method := "Profiler.start",
      parameters := [],
      returns := [] },
    { name := "start_precise_coverage", method := "Profiler.startPreciseCoverage",
      parameters :=
        [ .optional "call_count" "callCount" (.one .boolean),
          .optional "detailed" "detailed" (.one .boolean),
          .optional "allow_triggered_updates" "allowTriggeredUpdates" (.one .boolean) ],
      returns :=
        [ .required "timestamp" (.one .number) ] },
    { name := "start_type_profile", method := "Profiler.startTypeProfile",
      parameters := [],
      returns := [] },
    { name := "stop", method := "Profiler.stop",
      parameters := [],
      returns :=
        [ .required "profile" (.one (.ref "profiler" "Profile")) ] },
    { name := "stop_precise_coverage", method := "Profiler.stopPreciseCoverage",
      parameters := [],
      returns := [] },
    { name := "stop_type_profile", method := "Profiler.stopTypeProfile",
      parameters := [],
      returns := [] },
    { name := "take_precise_coverage", method := "Profiler.takePreciseCoverage",
      parameters := [],
      returns :=
        [ .required "result" (.many (.ref "profiler" "ScriptCoverage")),
          .required "timestamp" (.one .number) ] },
    { name := "take_type_profile", method := "Profiler.takeTypeProfile",
      parameters := [],
      returns :=
        [ .required "result" (.many (.ref "profiler" "ScriptTypeProfile")) ] } ]

def events : List Event :=
  [ { name := "ConsoleProfileFinished", method := "Profiler.consoleProfileFinished",
      fields :=
        [ .required "id_" "id" (.one .text),
          .required "location" "location" (.one (.ref "debugger" "Location")),
          .required "profile" "profile" (.one (.ref "profiler" "Profile")),
          .optional "title" "title" (.one .text) ] },
    { name := "ConsoleProfileStarted", method := "Profiler.consoleProfileStarted",
      fields :=
        [ .required "id_" "id" (.one .text),
          .required "location" "location" (.one (.ref "debugger" "Location")),
          .optional "title" "title" (.one .text) ] },
    { name := "PreciseCoverageDeltaUpdate", method := "Profiler.preciseCoverageDeltaUpdate",
      fields :=
        [ .required "timestamp" "timestamp" (.one .number),
          .required "occasion" "occasion" (.one .text),
          .required "result" "result" (.many (.ref "profiler" "ScriptCoverage")) ] } ]

def domain : DevTools.Domain where
  name := "Profiler"
  scope := "profiler"
  types := types
  commands := commands
  events := events

end DevTools.Domain.Profiler
