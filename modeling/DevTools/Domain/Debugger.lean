import DevTools.Schema

namespace DevTools.Domain.Debugger

def types : List Declaration :=
  [ .wrapper "BreakpointId" .text,
    .wrapper "CallFrameId" .text,
    .record "Location"
      [ .required "script_id" "scriptId" (.one (.ref "runtime" "ScriptId")),
        .required "line_number" "lineNumber" (.one .integer),
        .optional "column_number" "columnNumber" (.one .integer) ],
    .record "ScriptPosition"
      [ .required "line_number" "lineNumber" (.one .integer),
        .required "column_number" "columnNumber" (.one .integer) ],
    .record "LocationRange"
      [ .required "script_id" "scriptId" (.one (.ref "runtime" "ScriptId")),
        .required "start" "start" (.one (.ref "debugger" "ScriptPosition")),
        .required "end" "end" (.one (.ref "debugger" "ScriptPosition")) ],
    .record "CallFrame"
      [ .required "call_frame_id" "callFrameId" (.one (.ref "debugger" "CallFrameId")),
        .required "function_name" "functionName" (.one .text),
        .required "location" "location" (.one (.ref "debugger" "Location")),
        .required "url" "url" (.one .text),
        .required "scope_chain" "scopeChain" (.many (.ref "debugger" "Scope")),
        .required "this" "this" (.one (.ref "runtime" "RemoteObject")),
        .optional "function_location" "functionLocation" (.one (.ref "debugger" "Location")),
        .optional "return_value" "returnValue" (.one (.ref "runtime" "RemoteObject")) ],
    .record "Scope"
      [ .required "type_" "type" (.one .text),
        .required "object_" "object" (.one (.ref "runtime" "RemoteObject")),
        .optional "name" "name" (.one .text),
        .optional "start_location" "startLocation" (.one (.ref "debugger" "Location")),
        .optional "end_location" "endLocation" (.one (.ref "debugger" "Location")) ],
    .record "SearchMatch"
      [ .required "line_number" "lineNumber" (.one .number),
        .required "line_content" "lineContent" (.one .text) ],
    .record "BreakLocation"
      [ .required "script_id" "scriptId" (.one (.ref "runtime" "ScriptId")),
        .required "line_number" "lineNumber" (.one .integer),
        .optional "column_number" "columnNumber" (.one .integer),
        .optional "type_" "type" (.one .text) ],
    .enumeration "ScriptLanguage"
      [ ("JAVA_SCRIPT", "JavaScript"), ("WEB_ASSEMBLY", "WebAssembly") ],
    .record "DebugSymbols"
      [ .required "type_" "type" (.one .text),
        .optional "external_url" "externalURL" (.one .text) ] ]

def commands : List Command :=
  [ { name := "continue_to_location", method := "Debugger.continueToLocation",
      parameters :=
        [ .required "location" "location" (.one (.ref "debugger" "Location")),
          .optional "target_call_frames" "targetCallFrames" (.one .text) ],
      returns := [] },
    { name := "disable", method := "Debugger.disable",
      parameters := [],
      returns := [] },
    { name := "enable", method := "Debugger.enable",
      parameters :=
        [ .optional "max_scripts_cache_size" "maxScriptsCacheSize" (.one .number) ],
      returns :=
        [ .required "debuggerId" (.one (.ref "runtime" "UniqueDebuggerId")) ] },
    { name := "evaluate_on_call_frame", method := "Debugger.evaluateOnCallFrame",
      parameters :=
        [ .required "call_frame_id" "callFrameId" (.one (.ref "debugger" "CallFrameId")),
          .required "expression" "expression" (.one .text),
          .optional "object_group" "objectGroup" (.one .text),
          .optional "include_command_line_api" "includeCommandLineAPI" (.one .boolean),
          .optional "silent" "silent" (.one .boolean),
          .optional "return_by_value" "returnByValue" (.one .boolean),
          .optional "generate_preview" "generatePreview" (.one .boolean),
          .optional "throw_on_side_effect" "throwOnSideEffect" (.one .boolean),
          .optional "timeout" "timeout" (.one (.ref "runtime" "TimeDelta")) ],
      returns :=
        [ .required "result" (.one (.ref "runtime" "RemoteObject")),
          .optional "exceptionDetails" (.one (.ref "runtime" "ExceptionDetails")) ] },
    { name := "get_possible_breakpoints", method := "Debugger.getPossibleBreakpoints",
      parameters :=
        [ .required "start" "start" (.one (.ref "debugger" "Location")),
          .optional "end" "end" (.one (.ref "debugger" "Location")),
          .optional "restrict_to_function" "restrictToFunction" (.one .boolean) ],
      returns :=
        [ .required "locations" (.many (.ref "debugger" "BreakLocation")) ] },
    { name := "get_script_source", method := "Debugger.getScriptSource",
      parameters :=
        [ .required "script_id" "scriptId" (.one (.ref "runtime" "ScriptId")) ],
      returns :=
        [ .required "scriptSource" (.one .text),
          .optional "bytecode" (.one .text) ] },
    { name := "get_wasm_bytecode", method := "Debugger.getWasmBytecode", deprecated := true,
      parameters :=
        [ .required "script_id" "scriptId" (.one (.ref "runtime" "ScriptId")) ],
      returns :=
        [ .required "bytecode" (.one .text) ] },
    { name := "get_stack_trace", method := "Debugger.getStackTrace",
      parameters :=
        [ .required "stack_trace_id" "stackTraceId" (.one (.ref "runtime" "StackTraceId")) ],
      returns :=
        [ .required "stackTrace" (.one (.ref "runtime" "StackTrace")) ] },
    { name := "pause", method := "Debugger.pause",
      parameters := [],
      returns := [] },
    { name := "pause_on_async_call", method := "Debugger.pauseOnAsyncCall", deprecated := true,
      parameters :=
        [ .required "parent_stack_trace_id" "parentStackTraceId"
            (.one (.ref "runtime" "StackTraceId")) ],
      returns := [] },
    { name := "remove_breakpoint", method := "Debugger.removeBreakpoint",
      parameters :=
        [ .required "breakpoint_id" "breakpointId" (.one (.ref "debugger" "BreakpointId")) ],
      returns := [] },
    { name := "restart_frame", method := "Debugger.restartFrame", deprecated := true,
      parameters :=
        [ .required "call_frame_id" "callFrameId" (.one (.ref "debugger" "CallFrameId")) ],
      returns :=
        [ .required "callFrames" (.many (.ref "debugger" "CallFrame")),
          .optional "asyncStackTrace" (.one (.ref "runtime" "StackTrace")),
          .optional "asyncStackTraceId" (.one (.ref "runtime" "StackTraceId")) ] },
    { name := "resume", method := "Debugger.resume",
      parameters :=
        [ .optional "terminate_on_resume" "terminateOnResume" (.one .boolean) ],
      returns := [] },
    { name := "search_in_content", method := "Debugger.searchInContent",
      parameters :=
        [ .required "script_id" "scriptId" (.one (.ref "runtime" "ScriptId")),
          .required "query" "query" (.one .text),
          .optional "case_sensitive" "caseSensitive" (.one .boolean),
          .optional "is_regex" "isRegex" (.one .boolean) ],
      returns :=
        [ .required "result" (.many (.ref "debugger" "SearchMatch")) ] },
    { name := "set_async_call_stack_depth", method := "Debugger.setAsyncCallStackDepth",
      parameters :=
        [ .required "max_depth" "maxDepth" (.one .integer) ],
      returns := [] },
    { name := "set_blackbox_patterns", method := "Debugger.setBlackboxPatterns",
      parameters :=
        [ .required "patterns" "patterns" (.many .text) ],
      returns := [] },
    { name := "set_blackboxed_ranges", method := "Debugger.setBlackboxedRanges",
      parameters :=
        [ .required "script_id" "scriptId" (.one (.ref "runtime" "ScriptId")),
          .required "positions" "positions" (.many (.ref "debugger" "ScriptPosition")) ],
      returns := [] },
    { name := "set_breakpoint", method := "Debugger.setBreakpoint",
      parameters :=
        [ .required "location" "location" (.one (.ref "debugger" "Location")),
          .optional "condition" "condition" (.one .text) ],
      returns :=
        [ .required "breakpointId" (.one (.ref "debugger" "BreakpointId")),
          .required "actualLocation" (.one (.ref "debugger" "Location")) ] },
    { name := "set_instrumentation_breakpoint",
      method := "Debugger.setInstrumentationBreakpoint",
      parameters :=
        [ .required "instrumentation" "instrumentation" (.one .text) ],
      returns :=
        [ .required "breakpointId" (.one (.ref "debugger" "BreakpointId")) ] },
    { name := "set_breakpoint_by_url", method := "Debugger.setBreakpointByUrl",
      parameters :=
        [ .required "line_number" "lineNumber" (.one .integer),
          .optional "url" "url" (.one .text),
          .optional "url_regex" "urlRegex" (.one .text),
          .optional "script_hash" "scriptHash" (.one .text),
          .optional "column_number" "columnNumber" (.one .integer),
          .optional "condition" "condition" (.one .text) ],
      returns :=
        [ .required "breakpointId" (.one (.ref "debugger" "BreakpointId")),
          .required "locations" (.many (.ref "debugger" "Location")) ] },
    { name := "set_breakpoint_on_function_call",
      method := "Debugger.setBreakpointOnFunctionCall",
      parameters :=
        [ .required "object_id" "objectId" (.one (.ref "runtime" "RemoteObjectId")),
          .optional "condition" "condition" (.one .text) ],
      returns :=
        [ .required "breakpointId" (.one (.ref "debugger" "BreakpointId")) ] },
    { name := "set_breakpoints_active", method := "Debugger.setBreakpointsActive",
      parameters :=
        [ .required "active" "active" (.one .boolean) ],
      returns := [] },
    { name := "set_pause_on_exceptions", method := "Debugger.setPauseOnExceptions",
      parameters :=
        [ .required "state" "state" (.one .text) ],
      returns := [] },
    { name := "set_return_value", method := "Debugger.setReturnValue",
      parameters :=
        [ .required "new_value" "newValue" (.one (.ref "runtime" "CallArgument")) ],
      returns := [] },
    { name := "set_script_source", method := "Debugger.setScriptSource",
      parameters :=
        [ .required "script_id" "scriptId" (.one (.ref "runtime" "ScriptId")),
          .required "script_source" "scriptSource" (.one .text),
          .optional "dry_run" "dryRun" (.one .boolean) ],
      returns :=
        [ .optional "callFrames" (.many (.ref "debugger" "CallFrame")),
          .optional "stackChanged" (.one .boolean),
          .optional "asyncStackTrace" (.one (.ref "runtime" "StackTrace")),
          .optional "asyncStackTraceId" (.one (.ref "runtime" "StackTraceId")),
          .optional "exceptionDetails" (.one (.ref "runtime" "ExceptionDetails")) ] },
    { name := "set_skip_all_pauses", method := "Debugger.setSkipAllPauses",
      parameters :=
        [ .required "skip" "skip" (.one .boolean) ],
      returns := [] },
    { name := "set_variable_value", method := "Debugger.setVariableValue",
      parameters :=
        [ .required "scope_number" "scopeNumber" (.one .integer),
          .required "variable_name" "variableName" (.one .text),
          .required "new_value" "newValue" (.one (.ref "runtime" "CallArgument")),
          .required "call_frame_id" "callFrameId" (.one (.ref "debugger" "CallFrameId")) ],
      returns := [] },
    { name := "step_into", method := "Debugger.stepInto",
      parameters :=
        [ .optional "break_on_async_call" "breakOnAsyncCall" (.one .boolean),
          .optional "skip_list" "skipList" (.many (.ref "debugger" "LocationRange")) ],
      returns := [] },
    { name := "step_out", method := "Debugger.stepOut",
      parameters := [],
      returns := [] },
    { name := "step_over", method := "Debugger.stepOver",
      parameters :=
        [ .optional "skip_list" "skipList" (.many (.ref "debugger" "LocationRange")) ],
      returns := [] } ]

def events : List Event :=
  [ { name := "BreakpointResolved", method := "Debugger.breakpointResolved",
      fields :=
        [ .required "breakpoint_id" "breakpointId" (.one (.ref "debugger" "BreakpointId")),
          .required "location" "location" (.one (.ref "debugger" "Location")) ] },
    { name := "Paused", method := "Debugger.paused",
      fields :=
        [ .required "call_frames" "callFrames" (.many (.ref "debugger" "CallFrame")),
          .required "reason" "reason" (.one .text),
          .optional "data" "data" (.one .dict),
          .optional "hit_breakpoints" "hitBreakpoints" (.many .text),
          .optional "async_stack_trace" "asyncStackTrace" (.one (.ref "runtime" "StackTrace")),
          .optional "async_stack_trace_id" "asyncStackTraceId"
            (.one (.ref "runtime" "StackTraceId")),
          .optional "async_call_stack_trace_id" "asyncCallStackTraceId"
            (.one (.ref "runtime" "StackTraceId")) ] },
    { name := "Resumed", method := "Debugger.resumed",
      fields := [] },
    { name := "ScriptFailedToParse", method := "Debugger.scriptFailedToParse",
      fields :=
        [ .required "script_id" "scriptId" (.one (.ref "runtime" "ScriptId")),
          .required "url" "url" (.one .text),
          .required "start_line" "startLine" (.one .integer),
          .required "start_column" "startColumn" (.one .integer),
          .required "end_line" "endLine" (.one .integer),
          .required "end_column" "endColumn" (.one .integer),
          .required "execution_context_id" "executionContextId"
            (.one (.ref "runtime" "ExecutionContextId")),
          .required "hash_" "hash" (.one .text),
          .optional "execution_context_aux_data" "executionContextAuxData" (.one .dict),
          .optional "source_map_url" "sourceMapURL" (.one .text),
          .optional "has_source_url" "hasSourceURL" (.one .boolean),
          .optional "is_module" "isModule" (.one .boolean),
          .optional "length" "length" (.one .integer),
          .optional "stack_trace" "stackTrace" (.one (.ref "runtime" "StackTrace")),
          .optional "code_offset" "codeOffset" (.one .integer),
          .optional "script_language" "scriptLanguage"
            (.one (.selfNamed "debugger" "ScriptLanguage")),
          .optional "embedder_name" "embedderName" (.one .text) ] },
    { name := "ScriptParsed", method := "Debugger.scriptParsed",
      fields :=
        [ .required "script_id" "scriptId" (.one (.ref "runtime" "ScriptId")),
          .required "url" "url" (.one .text),
          .required "start_line" "startLine" (.one .integer),
          .required "start_column" "startColumn" (.one .integer),
          .required "end_line" "endLine" (.one .integer),
          .required "end_column" "endColumn" (.one .integer),
          .required "execution_context_id" "executionContextId"
            (.one (.ref "runtime" "ExecutionContextId")),
          .required "hash_" "hash" (.one .text),
          .optional "execution_context_aux_data" "executionContextAuxData" (.one .dict),
          .optional "is_live_edit" "isLiveEdit" (.one .boolean),
          .optional "source_map_url" "sourceMapURL" (.one .text),
          .optional "has_source_url" "hasSourceURL" (.one .boolean),
          .optional "is_module" "isModule" (.one .boolean),
          .optional "length" "length" (.one .integer),
          .optional "stack_trace" "stackTrace" (.one (.ref "runtime" "StackTrace")),
          .optional "code_offset" "codeOffset" (.one .integer),
          .optional "script_language" "scriptLanguage"
            (.one (.selfNamed "debugger" "ScriptLanguage")),
          .optional "debug_symbols" "debugSymbols"
            (.one (.selfNamed "debugger" "DebugSymbols")),
          .optional "embedder_name" "embedderName" (.one .text) ] } ]

def domain : DevTools.Domain where
  name := "Debugger"
  scope := "debugger"
  types := types
  commands := commands
  events := events

end DevTools.Domain.Debugger
