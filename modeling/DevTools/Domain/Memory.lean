import DevTools.Schema

namespace DevTools.Domain.Memory

def types : List Declaration :=
  [ .enumeration "PressureLevel" [("MODERATE", "moderate"), ("CRITICAL", "critical")],
    .record "SamplingProfileNode"
      [ .required "size" "size" (.one .number),
        .required "total" "total" (.one .number),
        .required "stack" "stack" (.many .text) ],
    .record "SamplingProfile"
      [ .required "samples" "samples" (.many (.ref "memory" "SamplingProfileNode")),
        .required "modules" "modules" (.many (.ref "memory" "Module")) ],
    .record "Module"
      [ .required "name" "name" (.one .text),
        .required "uuid" "uuid" (.one .text),
        .required "base_address" "baseAddress" (.one .text),
        .required "size" "size" (.one .number) ] ]

def commands : List Command :=
  [ { name := "get_dom_counters", method := "Memory.getDOMCounters",
      parameters := [],
      returns :=
        [ .required "documents" (.one .integer),
          .required "nodes" (.one .integer),
          .required "jsEventListeners" (.one .integer) ] },
    { name := "prepare_for_leak_detection", method := "Memory.prepareForLeakDetection",
      parameters := [],
      returns := [] },
    { name := "forcibly_purge_java_script_memory",
      method := "Memory.forciblyPurgeJavaScriptMemory",
      parameters := [],
      returns := [] },
    { name := "set_pressure_notifications_suppressed",
      method := "Memory.setPressureNotificationsSuppressed",
      parameters :=
        [ .required "suppressed" "suppressed" (.one .boolean) ],
      returns := [] },
    { name := "simulate_pressure_notification", method := "Memory.simulatePressureNotification",
      parameters :=
        [ .required "level" "level" (.one (.ref "memory" "PressureLevel")) ],
      returns := [] },
    { name := "start_sampling", method := "Memory.startSampling",
      parameters :=
        [ .optional "sampling_interval" "samplingInterval" (.one .integer),
          .optional "suppress_randomness" "suppressRandomness" (.one .boolean) ],
      returns := [] },
    { name := "stop_sampling", method := "Memory.stopSampling",
      parameters := [],
      returns := [] },
    { name := "get_all_time_sampling_profile", method := "Memory.getAllTimeSamplingProfile",
      parameters := [],
      returns :=
        [ .required "profile" (.one (.ref "memory" "SamplingProfile")) ] },
    { name := "get_browser_sampling_profile", method := "Memory.getBrowserSamplingProfile",
      parameters := [],
      returns :=
        [ .required "profile" (.one (.ref "memory" "SamplingProfile")) ] },
    { name := "get_sampling_profile", method := "Memory.getSamplingProfile",
      parameters := [],
      returns :=
        [ .required "profile" (.one (.ref "memory" "SamplingProfile")) ] } ]

def events : List Event := []

def domain : DevTools.Domain where
  name := "Memory"
  scope := "memory"
  types := types
  commands := commands
  events := events

end DevTools.Domain.Memory
