import DevTools.Schema

namespace DevTools.Domain.Tracing

def types : List Declaration :=
  [ .wrapper "MemoryDumpConfig" .dict,
    .record "TraceConfig"
      [ .optional "record_mode" "recordMode" (.one .text),
        .optional "enable_sampling" "enableSampling" (.one .boolean),
        .optional "enable_systrace" "enableSystrace" (.one .boolean),
        .optional "enable_argument_filter" "enableArgumentFilter" (.one .boolean),
        .optional "included_categories" "includedCategories" (.many .text),
        .optional "excluded_categories" "excludedCategories" (.many .text),
        .optional "synthetic_delays" "syntheticDelays" (.many .text),
        .optional "memory_dump_config" "memoryDumpConfig"
          (.one (.ref "tracing" "MemoryDumpConfig")) ],
    .enumeration "StreamFormat" [("JSON", "json"), ("PROTO", "proto")],
    .enumeration "StreamCompression" [("NONE", "none"), ("GZIP", "gzip")],
    .enumeration "MemoryDumpLevelOfDetail"
      [ ("BACKGROUND", "background"), ("LIGHT", "light"), ("DETAILED", "detailed") ],
    .enumeration "TracingBackend"
      [ ("AUTO", "auto"), ("CHROME", "chrome"), ("SYSTEM", "system") ] ]

def commands : List Command :=
  [ { name := "end", method := "Tracing.end",
      parameters := [],
      returns := [] },
    { name := "get_categories", method := "Tracing.getCategories",
      parameters := [],
      returns :=
        [ .required "categories" (.many .text) ] },
    { name := "record_clock_sync_marker", method := "Tracing.recordClockSyncMarker",
      parameters :=
        [ .required "sync_id" "syncId" (.one .text) ],
      returns := [] },
    { name := "request_memory_dump", method := "Tracing.requestMemoryDump",
      parameters :=
        [ .optional "deterministic" "deterministic" (.one .boolean),
          .optional "level_of_detail" "levelOfDetail"
            (.one (.ref "tracing" "MemoryDumpLevelOfDetail")) ],
      returns :=
        [ .required "dumpGuid" (.one .text),
          .required "success" (.one .boolean) ] },
    { name := "start", method := "Tracing.start",
      parameters :=
        [ .optional "categories" "categories" (.one .text),
          .optional "options" "options" (.one .text),
          .optional "buffer_usage_reporting_interval" "bufferUsageReportingInterval"
            (.one .number),
          .optional "transfer_mode" "transferMode" (.one .text),
          .optional "stream_format" "streamFormat" (.one (.ref "tracing" "StreamFormat")),
          .optional "stream_compression" "streamCompression"
            (.one (.ref "tracing" "StreamCompression")),
          .optional "trace_config" "traceConfig" (.one (.ref "tracing" "TraceConfig")),
          .optional "perfetto_config" "perfettoConfig" (.one .text),
          .optional "tracing_backend" "tracingBackend" (.one (.ref "tracing" "TracingBackend")) ],
      returns := [] } ]

def events : List Event :=
  [ { name := "BufferUsage", method := "Tracing.bufferUsage",
      fields :=
        [ .optional "percent_full" "percentFull" (.one .number),
          .optional "event_count" "eventCount" (.one .number),
          .optional "value" "value" (.one .number) ] },
    { name := "DataCollected", method := "Tracing.dataCollected",
      fields :=
        [ .required "value" "value" (.many .dict) ] },
    { name := "TracingComplete", method := "Tracing.tracingComplete",
      fields :=
        [ .required "data_loss_occurred" "dataLossOccurred" (.one .boolean),
          .optional "stream" "stream" (.one (.ref "io" "StreamHandle")),
          .optional "trace_format" "traceFormat" (.one (.ref "tracing" "StreamFormat")),
          .optional "stream_compression" "streamCompression"
            (.one (.ref "tracing" "StreamCompression")) ] } ]

def domain : DevTools.Domain where
  name := "Tracing"
  scope := "tracing"
  types := types
  commands := commands
  events := events

end DevTools.Domain.Tracing
