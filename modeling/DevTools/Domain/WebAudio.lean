import DevTools.Schema

namespace DevTools.Domain.WebAudio

def types : List Declaration :=
  [ .wrapper "GraphObjectId" .text,
    .enumeration "ContextType" [("REALTIME", "realtime"), ("OFFLINE", "offline")],
    .enumeration "ContextState"
      [ ("SUSPENDED", "suspended"), ("RUNNING", "running"), ("CLOSED", "closed") ],
    .wrapper "NodeType" .text,
    .enumeration "ChannelCountMode"
      [ ("CLAMPED_MAX", "clamped-max"), ("EXPLICIT", "explicit"), ("MAX_", "max") ],
    .enumeration "ChannelInterpretation" [("DISCRETE", "discrete"), ("SPEAKERS", "speakers")],
    .wrapper "ParamType" .text,
    .enumeration "AutomationRate" [("A_RATE", "a-rate"), ("K_RATE", "k-rate")],
    .record "ContextRealtimeData"
      [ .required "current_time" "currentTime" (.one .number),
        .required "render_capacity" "renderCapacity" (.one .number),
        .required "callback_interval_mean" "callbackIntervalMean" (.one .number),
        .required "callback_interval_variance" "callbackIntervalVariance" (.one .number) ],
    .record "BaseAudioContext"
      [ .required "context_id" "contextId" (.one (.ref "web_audio" "GraphObjectId")),
        .required "context_type" "contextType" (.one (.ref "web_audio" "ContextType")),
        .required "context_state" "contextState" (.one (.ref "web_audio" "ContextState")),
        .required "callback_buffer_size" "callbackBufferSize" (.one .number),
        .required "max_output_channel_count" "maxOutputChannelCount" (.one .number),
        .required "sample_rate" "sampleRate" (.one .number),
        .optional "realtime_data" "realtimeData"
          (.one (.ref "web_audio" "ContextRealtimeData")) ],
    .record "AudioListener"
      [ .required "listener_id" "listenerId" (.one (.ref "web_audio" "GraphObjectId")),
        .required "context_id" "contextId" (.one (.ref "web_audio" "GraphObjectId")) ],
    .record "AudioNode"
      [ .required "node_id" "nodeId" (.one (.ref "web_audio" "GraphObjectId")),
        .required "context_id" "contextId" (.one (.ref "web_audio" "GraphObjectId")),
        .required "node_type" "nodeType" (.one (.ref "web_audio" "NodeType")),
        .required "number_of_inputs" "numberOfInputs" (.one .number),
        .required "number_of_outputs" "numberOfOutputs" (.one .number),
        .required "channel_count" "channelCount" (.one .number),
        .required "channel_count_mode" "channelCountMode"
          (.one (.ref "web_audio" "ChannelCountMode")),
        .required "channel_interpretation" "channelInterpretation"
          (.one (.ref "web_audio" "ChannelInterpretation")) ],
    .record "AudioParam"
      [ .required "param_id" "paramId" (.one (.ref "web_audio" "GraphObjectId")),
        .required "node_id" "nodeId" (.one (.ref "web_audio" "GraphObjectId")),
        .required "context_id" "contextId" (.one (.ref "web_audio" "GraphObjectId")),
        .required "param_type" "paramType" (.one (.ref "web_audio" "ParamType")),
        .required "rate" "rate" (.one (.ref "web_audio" "AutomationRate")),
        .required "default_value" "defaultValue" (.one .number),
        .required "min_value" "minValue" (.one .number),
        .required "max_value" "maxValue" (.one .number) ] ]

def commands : List Command :=
  [ { name := "enable", method := "WebAudio.enable",
      parameters := [],
      returns := [] },
    { name := "disable", method := "WebAudio.disable",
      parameters := [],
      returns := [] },
    { name := "get_realtime_data", method := "WebAudio.getRealtimeData",
      parameters :=
        [ .required "context_id" "contextId" (.one (.ref "web_audio" "GraphObjectId")) ],
      returns :=
        [ .required "realtimeData" (.one (.ref "web_audio" "ContextRealtimeData")) ] } ]

def events : List Event :=
  [ { name := "ContextCreated", method := "WebAudio.contextCreated",
      fields :=
        [ .required "context" "context" (.one (.ref "web_audio" "BaseAudioContext")) ] },
    { name := "ContextWillBeDestroyed", method := "WebAudio.contextWillBeDestroyed",
      fields :=
        [ .required "context_id" "contextId" (.one (.ref "web_audio" "GraphObjectId")) ] },
    { name := "ContextChanged", method := "WebAudio.contextChanged",
      fields :=
        [ .required "context" "context" (.one (.ref "web_audio" "BaseAudioContext")) ] },
    { name := "AudioListenerCreated", method := "WebAudio.audioListenerCreated",
      fields :=
        [ .required "listener" "listener" (.one (.ref "web_audio" "AudioListener")) ] },
    { name := "AudioListenerWillBeDestroyed", method := "WebAudio.audioListenerWillBeDestroyed",
      fields :=
        [ .required "context_id" "contextId" (.one (.ref "web_audio" "GraphObjectId")),
          .required "listener_id" "listenerId" (.one (.ref "web_audio" "GraphObjectId")) ] },
    { name := "AudioNodeCreated", method := "WebAudio.audioNodeCreated",
      fields :=
        [ .required "node" "node" (.one (.ref "web_audio" "AudioNode")) ] },
    { name := "AudioNodeWillBeDestroyed", method := "WebAudio.audioNodeWillBeDestroyed",
      fields :=
        [ .required "context_id" "contextId" (.one (.ref "web_audio" "GraphObjectId")),
          .required "node_id" "nodeId" (.one (.ref "web_audio" "GraphObjectId")) ] },
    { name := "AudioParamCreated", method := "WebAudio.audioParamCreated",
      fields :=
        [ .required "param" "param" (.one (.ref "web_audio" "AudioParam")) ] },
    { name := "AudioParamWillBeDestroyed", method := "WebAudio.audioParamWillBeDestroyed",
      fields :=
        [ .required "context_id" "contextId" (.one (.ref "web_audio" "GraphObjectId")),
          .required "node_id" "nodeId" (.one (.ref "web_audio" "GraphObjectId")),
          .required "param_id" "paramId" (.one (.ref "web_audio" "GraphObjectId")) ] },
    { name := "NodesConnected", method := "WebAudio.nodesConnected",
      fields :=
        [ .required "context_id" "contextId" (.one (.ref "web_audio" "GraphObjectId")),
          .required "source_id" "sourceId" (.one (.ref "web_audio" "GraphObjectId")),
          .required "destination_id" "destinationId" (.one (.ref "web_audio" "GraphObjectId")),
          .optional "source_output_index" "sourceOutputIndex" (.one .number),
          .optional "destination_input_index" "destinationInputIndex" (.one .number) ] },
    { name := "NodesDisconnected", method := "WebAudio.nodesDisconnected",
      fields :=
        [ .required "context_id" "contextId" (.one (.ref "web_audio" "GraphObjectId")),
          .required "source_id" "sourceId" (.one (.ref "web_audio" "GraphObjectId")),
          .required "destination_id" "destinationId" (.one (.ref "web_audio" "GraphObjectId")),
          .optional "source_output_index" "sourceOutputIndex" (.one .number),
          .optional "destination_input_index" "destinationInputIndex" (.one .number) ] },
    { name := "NodeParamConnected", method := "WebAudio.nodeParamConnected",
      fields :=
        [ .required "context_id" "contextId" (.one (.ref "web_audio" "GraphObjectId")),
          .required "source_id" "sourceId" (.one (.ref "web_audio" "GraphObjectId")),
          .required "destination_id" "destinationId" (.one (.ref "web_audio" "GraphObjectId")),
          .optional "source_output_index" "sourceOutputIndex" (.one .number) ] },
    { name := "NodeParamDisconnected", method := "WebAudio.nodeParamDisconnected",
      fields :=
        [ .required "context_id" "contextId" (.one (.ref "web_audio" "GraphObjectId")),
          .required "source_id" "sourceId" (.one (.ref "web_audio" "GraphObjectId")),
          .required "destination_id" "destinationId" (.one (.ref "web_audio" "GraphObjectId")),
          .optional "source_output_index" "sourceOutputIndex" (.one .number) ] } ]

def domain : DevTools.Domain where
  name := "WebAudio"
  scope := "web_audio"
  types := types
  commands := commands
  events := events

end DevTools.Domain.WebAudio
