import DevTools.Schema

namespace DevTools.Domain.PerformanceTimeline

def types : List Declaration :=
  [ .record "LargestContentfulPaint"
      [ .required "render_time" "renderTime" (.one (.ref "network" "TimeSinceEpoch")),
        .required "load_time" "loadTime" (.one (.ref "network" "TimeSinceEpoch")),
        .required "size" "size" (.one .number),
        .optional "element_id" "elementId" (.one .text),
        .optional "url" "url" (.one .text),
        .optional "node_id" "nodeId" (.one (.ref "dom" "BackendNodeId")) ],
    .record "LayoutShiftAttribution"
      [ .required "previous_rect" "previousRect" (.one (.ref "dom" "Rect")),
        .required "current_rect" "currentRect" (.one (.ref "dom" "Rect")),
        .optional "node_id" "nodeId" (.one (.ref "dom" "BackendNodeId")) ],
    .record "LayoutShift"
      [ .required "value" "value" (.one .number),
        .required "had_recent_input" "hadRecentInput" (.one .boolean),
        .required "last_input_time" "lastInputTime" (.one (.ref "network" "TimeSinceEpoch")),
        .required "sources" "sources"
          (.many (.ref "performance_timeline" "LayoutShiftAttribution")) ],
    .record "TimelineEvent"
      [ .required "frame_id" "frameId" (.one (.ref "page" "FrameId")),
        .required "type_" "type" (.one .text),
        .required "name" "name" (.one .text),
        .required "time" "time" (.one (.ref "network" "TimeSinceEpoch")),
        .optional "duration" "duration" (.one .number),
        .optional "lcp_details" "lcpDetails"
          (.one (.ref "performance_timeline" "LargestContentfulPaint")),
        .optional "layout_shift_details" "layoutShiftDetails"
          (.one (.ref "performance_timeline" "LayoutShift")) ] ]

def commands : List Command :=
  [ { name := "enable", method := "PerformanceTimeline.enable",
      parameters :=
        [ .required "event_types" "eventTypes" (.many .text) ],
      returns := [] } ]

def events : List Event :=
  [ { name := "TimelineEventAdded", method := "PerformanceTimeline.timelineEventAdded",
      fields :=
        [ .required "event" "event" (.one (.ref "performance_timeline" "TimelineEvent")) ] } ]

def domain : DevTools.Domain where
  name := "PerformanceTimeline"
  scope := "performance_timeline"
  types := types
  commands := commands
  events := events

end DevTools.Domain.PerformanceTimeline
