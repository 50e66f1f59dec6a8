import DevTools.Schema

namespace DevTools.Domain.Runtime

def types : List Declaration :=
  [ .wrapper "ScriptId" .text,
    .wrapper "RemoteObjectId" .text,
    .wrapper "UnserializableValue" .text,
    .record "RemoteObject"
      [ .required "type_" "type" (.one .text),
        .optional "subtype" "subtype" (.one .text),
        .optional "class_name" "className" (.one .text),
        .optional "value" "value" (.one .any),
        .optional "unserializable_value" "unserializableValue"
          (.one (.ref "runtime" "UnserializableValue")),
        .optional "description" "description" (.one .text),
        .optional "object_id" "objectId" (.one (.ref "runtime" "RemoteObjectId")),
        .optional "preview" "preview" (.one (.ref "runtime" "ObjectPreview")),
        .optional "custom_preview" "customPreview" (.one (.ref "runtime" "CustomPreview")) ],
    .record "CustomPreview"
      [ .required "header" "header" (.one .text),
        .optional "body_getter_id" "bodyGetterId" (.one (.ref "runtime" "RemoteObjectId")) ],
    .record "ObjectPreview"
      [ .required "type_" "type" (.one .text),
        .required "overflow" "overflow" (.one .boolean),
        .required "properties" "properties" (.many (.ref "runtime" "PropertyPreview")),
        .optional "subtype" "subtype" (.one .text),
        .optional "description" "description" (.one .text),
        .optional "entries" "entries" (.many (.ref "runtime" "EntryPreview")) ],
    .record "PropertyPreview"
      [ .required "name" "name" (.one .text),
        .required "type_" "type" (.one .text),
        .optional "value" "value" (.one .text),
        .optional "value_preview" "valuePreview" (.one (.ref "runtime" "ObjectPreview")),
        .optional "subtype" "subtype" (.one .text) ],
    .record "EntryPreview"
      [ .required "value" "value" (.one (.ref "runtime" "ObjectPreview")),
        .optional "key" "key" (.one (.ref "runtime" "ObjectPreview")) ],
    .record "PropertyDescriptor"
      [ .required "name" "name" (.one .text),
        .required "configurable" "configurable" (.one .boolean),
        .required "enumerable" "enumerable" (.one .boolean),
        .optional "value" "value" (.one (.ref "runtime" "RemoteObject")),
        .optional "writable" "writable" (.one .boolean),
        .optional "get" "get" (.one (.ref "runtime" "RemoteObject")),
        .optional "set_" "set" (.one (.ref "runtime" "RemoteObject")),
        .optional "was_thrown" "wasThrown" (.one .boolean),
        .optional "is_own" "isOwn" (.one .boolean),
        .optional "symbol" "symbol" (.one (.ref "runtime" "RemoteObject")) ],
    .record "InternalPropertyDescriptor"
      [ .required "name" "name" (.one .text),
        .optional "value" "value" (.one (.ref "runtime" "RemoteObject")) ],
    .record "PrivatePropertyDescriptor"
      [ .required "name" "name" (.one .text),
        .optional "value" "value" (.one (.ref "runtime" "RemoteObject")),
        .optional "get" "get" (.one (.ref "runtime" "RemoteObject")),
        .optional "set_" "set" (.one (.ref "runtime" "RemoteObject")) ],
    .record "CallArgument"
      [ .optional "value" "value" (.one .any),
        .optional "unserializable_value" "unserializableValue"
          (.one (.ref "runtime" "UnserializableValue")),
        .optional "object_id" "objectId" (.one (.ref "runtime" "RemoteObjectId")) ],
    .wrapper "ExecutionContextId" .integer,
    .record "ExecutionContextDescription"
      [ .required "id_" "id" (.one (.ref "runtime" "ExecutionContextId")),
        .required "origin" "origin" (.one .text),
        .required "name" "name" (.one .text),
        .required "unique_id" "uniqueId" (.one .text),
        .optional "aux_data" "auxData" (.one .dict) ],
    .record "ExceptionDetails"
      [ .required "exception_id" "exceptionId" (.one .integer),
        .required "text" "text" (.one .text),
        .required "line_number" "lineNumber" (.one .integer),
        .required "column_number" "columnNumber" (.one .integer),
        .optional "script_id" "scriptId" (.one (.ref "runtime" "ScriptId")),
        .optional "url" "url" (.one .text),
        .optional "stack_trace" "stackTrace" (.one (.ref "runtime" "StackTrace")),
        .optional "exception" "exception" (.one (.ref "runtime" "RemoteObject")),
        .optional "execution_context_id" "executionContextId"
          (.one (.ref "runtime" "ExecutionContextId")),
        .optional "exception_meta_data" "exceptionMetaData" (.one .dict) ],
    .wrapper "Timestamp" .number,
    .wrapper "TimeDelta" .number,
    .record "CallFrame"
      [ .required "function_name" "functionName" (.one .text),
        .required "script_id" "scriptId" (.one (.ref "runtime" "ScriptId")),
        .required "url" "url" (.one .text),
        .required "line_number" "lineNumber" (.one .integer),
        .required "column_number" "columnNumber" (.one .integer) ],
    .record "StackTrace"
      [ .required "call_frames" "callFrames" (.many (.ref "runtime" "CallFrame")),
        .optional "description" "description" (.one .text),
        .optional "parent" "parent" (.one (.ref "runtime" "StackTrace")),
        .optional "parent_id" "parentId" (.one (.ref "runtime" "StackTraceId")) ],
    .wrapper "UniqueDebuggerId" .text,
    .record "StackTraceId"
      [ .required "id_" "id" (.one .text),
        .optional "debugger_id" "debuggerId" (.one (.ref "runtime" "UniqueDebuggerId")) ] ]

def commands : List Command :=
  [ { name := "await_promise", method := "Runtime.awaitPromise",
      parameters :=
        [ .required "promise_object_id" "promiseObjectId"
            (.one (.ref "runtime" "RemoteObjectId")),
          .optional "return_by_value" "returnByValue" (.one .boolean),
          .optional "generate_preview" "generatePreview" (.one .boolean) ],
      returns :=
        [ .required "result" (.one (.ref "runtime" "RemoteObject")),
          .optional "exceptionDetails" (.one (.ref "runtime" "ExceptionDetails")) ] },
    { name := "call_function_on", method := "Runtime.callFunctionOn",
      parameters :=
        [ .required "function_declaration" "functionDeclaration" (.one .text),
          .optional "object_id" "objectId" (.one (.ref "runtime" "RemoteObjectId")),
          .optional "arguments" "arguments" (.many (.ref "runtime" "CallArgument")),
          .optional "silent" "silent" (.one .boolean),
          .optional "return_by_value" "returnByValue" (.one .boolean),
          .optional "generate_preview" "generatePreview" (.one .boolean),
          .optional "user_gesture" "userGesture" (.one .boolean),
          .optional "await_promise" "awaitPromise" (.one .boolean),
          .optional "execution_context_id" "executionContextId"
            (.one (.ref "runtime" "ExecutionContextId")),
          .optional "object_group" "objectGroup" (.one .text),
          .optional "throw_on_side_effect" "throwOnSideEffect" (.one .boolean) ],
      returns :=
        [ .required "result" (.one (.ref "runtime" "RemoteObject")),
          .optional "exceptionDetails" (.one (.ref "runtime" "ExceptionDetails")) ] },
    { name := "compile_script", method := "Runtime.compileScript",
      parameters :=
        [ .required "expression" "expression" (.one .text),
          .required "source_url" "sourceURL" (.one .text),
          .required "persist_script" "persistScript" (.one .boolean),
          .optional "execution_context_id" "executionContextId"
            (.one (.ref "runtime" "ExecutionContextId")) ],
      returns :=
        [ .optional "scriptId" (.one (.ref "runtime" "ScriptId")),
          .optional "exceptionDetails" (.one (.ref "runtime" "ExceptionDetails")) ] },
    { name := "disable", method := "Runtime.disable",
      parameters := [],
      returns := [] },
    { name := "discard_console_entries", method := "Runtime.discardConsoleEntries",
      parameters := [],
      returns := [] },
    { name := "enable", method := "Runtime.enable",
      parameters := [],
      returns := [] },
    { name := "evaluate", method := "Runtime.evaluate",
      parameters :=
        [ .required "expression" "expression" (.one .text),
          .optional "object_group" "objectGroup" (.one .text),
          .optional "include_command_line_api" "includeCommandLineAPI" (.one .boolean),
          .optional "silent" "silent" (.one .boolean),
          .optional "context_id" "contextId" (.one (.ref "runtime" "ExecutionContextId")),
          .optional "return_by_value" "returnByValue" (.one .boolean),
          .optional "generate_preview" "generatePreview" (.one .boolean),
          .optional "user_gesture" "userGesture" (.one .boolean),
          .optional "await_promise" "awaitPromise" (.one .boolean),
          .optional "throw_on_side_effect" "throwOnSideEffect" (.one .boolean),
          .optional "timeout" "timeout" (.one (.ref "runtime" "TimeDelta")),
          .optional "disable_breaks" "disableBreaks" (.one .boolean),
          .optional "repl_mode" "replMode" (.one .boolean),
          .optional "allow_unsafe_eval_blocked_by_csp" "allowUnsafeEvalBlockedByCSP"
            (.one .boolean),
          .optional "unique_context_id" "uniqueContextId" (.one .text) ],
      returns :=
        [ .required "result" (.one (.ref "runtime" "RemoteObject")),
          .optional "exceptionDetails" (.one (.ref "runtime" "ExceptionDetails")) ] },
    { name := "get_isolate_id", method := "Runtime.getIsolateId",
      parameters := [],
      returns :=
        [ .required "id" (.one .text) ] },
    { name := "get_heap_usage", method := "Runtime.getHeapUsage",
      parameters := [],
      returns :=
        [ .required "usedSize" (.one .number),
          .required "totalSize" (.one .number) ] },
    { name := "get_properties", method := "Runtime.getProperties",
      parameters :=
        [ .required "object_id" "objectId" (.one (.ref "runtime" "RemoteObjectId")),
          .optional "own_properties" "ownProperties" (.one .boolean),
          .optional "accessor_properties_only" "accessorPropertiesOnly" (.one .boolean),
          .optional "generate_preview" "generatePreview" (.one .boolean),
          .optional "non_indexed_properties_only" "nonIndexedPropertiesOnly" (.one .boolean) ],
      returns :=
        [ .required "result" (.many (.ref "runtime" "PropertyDescriptor")),
          .optional "internalProperties" (.many (.ref "runtime" "InternalPropertyDescriptor")),
          .optional "privateProperties" (.many (.ref "runtime" "PrivatePropertyDescriptor")),
          .optional "exceptionDetails" (.one (.ref "runtime" "ExceptionDetails")) ] },
    { name := "global_lexical_scope_names", method := "Runtime.globalLexicalScopeNames",
      parameters :=
        [ .optional "execution_context_id" "executionContextId"
            (.one (.ref "runtime" "ExecutionContextId")) ],
      returns :=
        [ .required "names" (.many .text) ] },
    { name := "query_objects", method := "Runtime.queryObjects",
      parameters :=
        [ .required "prototype_object_id" "prototypeObjectId"
            (.one (.ref "runtime" "RemoteObjectId")),
          .optional "object_group" "objectGroup" (.one .text) ],
      returns :=
        [ .required "objects" (.one (.ref "runtime" "RemoteObject")) ] },
    { name := "release_object", method := "Runtime.releaseObject",
      parameters :=
        [ .required "object_id" "objectId" (.one (.ref "runtime" "RemoteObjectId")) ],
      returns := [] },
    { name := "release_object_group", method := "Runtime.releaseObjectGroup",
      parameters :=
        [ .required "object_group" "objectGroup" (.one .text) ],
      returns := [] },
    { name := "run_if_waiting_for_debugger", method := "Runtime.runIfWaitingForDebugger",
      parameters := [],
      returns := [] },
    { name := "run_script", method := "Runtime.runScript",
      parameters :=
        [ .required "script_id" "scriptId" (.one (.ref "runtime" "ScriptId")),
          .optional "execution_context_id" "executionContextId"
            (.one (.ref "runtime" "ExecutionContextId")),
          .optional "object_group" "objectGroup" (.one .text),
          .optional "silent" "silent" (.one .boolean),
          .optional "include_command_line_api" "includeCommandLineAPI" (.one .boolean),
          .optional "return_by_value" "returnByValue" (.one .boolean),
          .optional "generate_preview" "generatePreview" (.one .boolean),
          .optional "await_promise" "awaitPromise" (.one .boolean) ],
      returns :=
        [ .required "result" (.one (.ref "runtime" "RemoteObject")),
          .optional "exceptionDetails" (.one (.ref "runtime" "ExceptionDetails")) ] },
    { name := "set_async_call_stack_depth", method := "Runtime.setAsyncCallStackDepth",
      parameters :=
        [ .required "max_depth" "maxDepth" (.one .integer) ],
      returns := [] },
    { name := "set_custom_object_formatter_enabled",
      method := "Runtime.setCustomObjectFormatterEnabled",
      parameters :=
        [ .required "enabled" "enabled" (.one .boolean) ],
      returns := [] },
    { name := "set_max_call_stack_size_to_capture",
      method := "Runtime.setMaxCallStackSizeToCapture",
      parameters :=
        [ .required "size" "size" (.one .integer) ],
      returns := [] },
    { name := "terminate_execution", method := "Runtime.terminateExecution",
      parameters := [],
      returns := [] },
    { name := "add_binding", method := "Runtime.addBinding",
      parameters :=
        [ .required "name" "name" (.one .text),
          .optional "execution_context_id" "executionContextId"
            (.one (.ref "runtime" "ExecutionContextId")),
          .optional "execution_context_name" "executionContextName" (.one .text) ],
      returns := [] },
    { name := "remove_binding", method := "Runtime.removeBinding",
      parameters :=
        [ .required "name" "name" (.one .text) ],
      returns := [] } ]

def events : List Event :=
  [ { name := "BindingCalled", method := "Runtime.bindingCalled",
      fields :=
        [ .required "name" "name" (.one .text),
          .required "payload" "payload" (.one .text),
          .required "execution_context_id" "executionContextId"
            (.one (.ref "runtime" "ExecutionContextId")) ] },
    { name := "ConsoleAPICalled", method := "Runtime.consoleAPICalled",
      fields :=
        [ .required "type_" "type" (.one .text),
          .required "args" "args" (.many (.ref "runtime" "RemoteObject")),
          .required "execution_context_id" "executionContextId"
            (.one (.ref "runtime" "ExecutionContextId")),
          .required "timestamp" "timestamp" (.one (.ref "runtime" "Timestamp")),
          .optional "stack_trace" "stackTrace" (.one (.ref "runtime" "StackTrace")),
          .optional "context" "context" (.one .text) ] },
    { name := "ExceptionRevoked", method := "Runtime.exceptionRevoked",
      fields :=
        [ .required "reason" "reason" (.one .text),
          .required "exception_id" "exceptionId" (.one .integer) ] },
    { name := "ExceptionThrown", method := "Runtime.exceptionThrown",
      fields :=
        [ .required "timestamp" "timestamp" (.one (.ref "runtime" "Timestamp")),
          .required "exception_details" "exceptionDetails"
            (.one (.ref "runtime" "ExceptionDetails")) ] },
    { name := "ExecutionContextCreated", method := "Runtime.executionContextCreated",
      fields :=
        [ .required "context" "context" (.one (.ref "runtime" "ExecutionContextDescription")) ] },
    { name := "ExecutionContextDestroyed", method := "Runtime.executionContextDestroyed",
      fields :=
        [ .required "execution_context_id" "executionContextId"
            (.one (.ref "runtime" "ExecutionContextId")) ] },
    { name := "ExecutionContextsCleared", method := "Runtime.executionContextsCleared",
      fields := [] },
    { name := "InspectRequested", method := "Runtime.inspectRequested",
      fields :=
        [ .required "object_" "object" (.one (.ref "runtime" "RemoteObject")),
          .required "hints" "hints" (.one .dict),
          .optional "execution_context_id" "executionContextId"
            (.one (.ref "runtime" "ExecutionContextId")) ] } ]

def domain : DevTools.Domain where
  name := "Runtime"
  scope := "runtime"
  types := types
  commands := commands
  events := events

end DevTools.Domain.Runtime
