import DevTools.Schema

namespace DevTools.Domain.HeapProfiler

def types : List Declaration :=
  [ .wrapper "HeapSnapshotObjectId" .text,
    .record "SamplingHeapProfileNode"
      [ .required "call_frame" "callFrame" (.one (.ref "runtime" "CallFrame")),
        .required "self_size" "selfSize" (.one .number),
        .required "id_" "id" (.one .integer),
        .required "children" "children"
          (.many (.ref "heap_profiler" "SamplingHeapProfileNode")) ],
    .record "SamplingHeapProfileSample"
      [ .required "size" "size" (.one .number),
        .required "node_id" "nodeId" (.one .integer),
        .required "ordinal" "ordinal" (.one .number) ],
    .record "SamplingHeapProfile"
      [ .required "head" "head" (.one (.ref "heap_profiler" "SamplingHeapProfileNode")),
        .required "samples" "samples"
          (.many (.ref "heap_profiler" "SamplingHeapProfileSample")) ] ]

def commands : List Command :=
  [ { name := "add_inspected_heap_object", method := "HeapProfiler.addInspectedHeapObject",
      parameters :=
        [ .required "heap_object_id" "heapObjectId"
            (.one (.ref "heap_profiler" "HeapSnapshotObjectId")) ],
      returns := [] },
    { name := "collect_garbage", method := "HeapProfiler.collectGarbage",
      parameters := [],
      returns := [] },
    { name := "disable", method := "HeapProfiler.disable",
      parameters := [],
      returns := [] },
    { name := "enable", method := "HeapProfiler.enable",
      parameters := [],
      returns := [] },
    { name := "get_heap_object_id", method := "HeapProfiler.getHeapObjectId",
      parameters :=
        [ .required "object_id" "objectId" (.one (.ref "runtime" "RemoteObjectId")) ],
      returns :=
        [ .required "heapSnapshotObjectId" (.one (.ref "heap_profiler" "HeapSnapshotObjectId")) ] },
    { name := "get_object_by_heap_object_id", method := "HeapProfiler.getObjectByHeapObjectId",
      parameters :=
        [ .required "object_id" "objectId" (.one (.ref "heap_profiler" "HeapSnapshotObjectId")),
          .optional "object_group" "objectGroup" (.one .text) ],
      returns :=
        [ .required "result" (.one (.ref "runtime" "RemoteObject")) ] },
    { name := "get_sampling_profile", method := "HeapProfiler.getSamplingProfile",
      parameters := [],
      returns :=
        [ .required "profile" (.one (.ref "heap_profiler" "SamplingHeapProfile")) ] },
    { name := "start_sampling", method := "HeapProfiler.startSampling",
      parameters :=
        [ .optional "sampling_interval" "samplingInterval" (.one .number) ],
      returns := [] },
    { name := "start_tracking_heap_objects", method := "HeapProfiler.startTrackingHeapObjects",
      parameters :=
        [ .optional "track_allocations" "trackAllocations" (.one .boolean) ],
      returns := [] },
    { name := "stop_sampling", method := "HeapProfiler.stopSampling",
      parameters := [],
      returns :=
        [ .required "profile" (.one (.ref "heap_profiler" "SamplingHeapProfile")) ] },
    { name := "stop_tracking_heap_objects", method := "HeapProfiler.stopTrackingHeapObjects",
      parameters :=
        [ .optional "report_progress" "reportProgress" (.one .boolean),
          .optional "treat_global_objects_as_roots" "treatGlobalObjectsAsRoots" (.one .boolean),
          .optional "capture_numeric_value" "captureNumericValue" (.one .boolean) ],
      returns := [] },
    { name := "take_heap_snapshot", method := "HeapProfiler.takeHeapSnapshot",
      parameters :=
        [ .optional "report_progress" "reportProgress" (.one .boolean),
          .optional "treat_global_objects_as_roots" "treatGlobalObjectsAsRoots" (.one .boolean),
          .optional "capture_numeric_value" "captureNumericValue" (.one .boolean) ],
      returns := [] } ]

def events : List Event :=
  [ { name := "AddHeapSnapshotChunk", method := "HeapProfiler.addHeapSnapshotChunk",
      fields :=
        [ .required "chunk" "chunk" (.one .text) ] },
    { name := "HeapStatsUpdate", method := "HeapProfiler.heapStatsUpdate",
      fields :=
        [ .required "stats_update" "statsUpdate" (.many .integer) ] },
    { name := "LastSeenObjectId", method := "HeapProfiler.lastSeenObjectId",
      fields :=
        [ .required "last_seen_object_id" "lastSeenObjectId" (.one .integer),
          .required "timestamp" "timestamp" (.one .number) ] },
    { name := "ReportHeapSnapshotProgress", method := "HeapProfiler.reportHeapSnapshotProgress",
      fields :=
        [ .required "done" "done" (.one .integer),
          .required "total" "total" (.one .integer),
          .optional "finished" "finished" (.one .boolean) ] },
    { name := "ResetProfiles", method := "HeapProfiler.resetProfiles",
      fields := [] } ]

def domain : DevTools.Domain where
  name := "HeapProfiler"
  scope := "heap_profiler"
  types := types
  commands := commands
  events := events

end DevTools.Domain.HeapProfiler
