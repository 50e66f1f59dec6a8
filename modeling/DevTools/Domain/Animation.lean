import DevTools.Schema

namespace DevTools.Domain.Animation

def types : List Declaration :=
  [ .record "Animation"
      [ .required "id_" "id" (.one .text),
        .required "name" "name" (.one .text),
        .required "paused_state" "pausedState" (.one .boolean),
        .required "play_state" "playState" (.one .text),
        .required "playback_rate" "playbackRate" (.one .number),
        .required "start_time" "startTime" (.one .number),
        .required "current_time" "currentTime" (.one .number),
        .required "type_" "type" (.one .text),
        .optional "source" "source" (.one (.ref "animation" "AnimationEffect")),
        .optional "css_id" "cssId" (.one .text) ],
    .record "AnimationEffect"
      [ .required "delay" "delay" (.one .number),
        .required "end_delay" "endDelay" (.one .number),
        .required "iteration_start" "iterationStart" (.one .number),
        .required "iterations" "iterations" (.one .number),
        .required "duration" "duration" (.one .number),
        .required "direction" "direction" (.one .text),
        .required "fill" "fill" (.one .text),
        .required "easing" "easing" (.one .text),
        .optional "backend_node_id" "backendNodeId" (.one (.ref "dom" "BackendNodeId")),
        .optional "keyframes_rule" "keyframesRule" (.one (.ref "animation" "KeyframesRule")) ],
    .record "KeyframesRule"
      [ .required "keyframes" "keyframes" (.many (.ref "animation" "KeyframeStyle")),
        .optional "name" "name" (.one .text) ],
    .record "KeyframeStyle"
      [ .required "offset" "offset" (.one .text),
        .required "easing" "easing" (.one .text) ] ]

def commands : List Command :=
  [ { name := "disable", method := "Animation.disable",
      parameters := [],
      returns := [] },
    { name := "enable", method := "Animation.enable",
      parameters := [],
      returns := [] },
    { name := "get_current_time", method := "Animation.getCurrentTime",
      parameters :=
        [ .required "id_" "id" (.one .text) ],
      returns :=
        [ .required "currentTime" (.one .number) ] },
    { name := "get_playback_rate", method := "Animation.getPlaybackRate",
      parameters := [],
      returns :=
        [ .required "playbackRate" (.one .number) ] },
    { name := "release_animations", method := "Animation.releaseAnimations",
      parameters :=
        [ .required "animations" "animations" (.many .text) ],
      returns := [] },
    { name := "resolve_animation", method := "Animation.resolveAnimation",
      parameters :=
        [ .required "animation_id" "animationId" (.one .text) ],
      returns :=
        [ .required "remoteObject" (.one (.ref "runtime" "RemoteObject")) ] },
    { name := "seek_animations", method := "Animation.seekAnimations",
      parameters :=
        [ .required "animations" "animations" (.many .text),
          .required "current_time" "currentTime" (.one .number) ],
      returns := [] },
    { name := "set_paused", method := "Animation.setPaused",
      parameters :=
        [ .required "animations" "animations" (.many .text),
          .required "paused" "paused" (.one .boolean) ],
      returns := [] },
    { name := "set_playback_rate", method := "Animation.setPlaybackRate",
      parameters :=
        [ .required "playback_rate" "playbackRate" (.one .number) ],
      returns := [] },
    { name := "set_timing", method := "Animation.setTiming",
      parameters :=
        [ .required "animation_id" "animationId" (.one .text),
          .required "duration" "duration" (.one .number),
          .required "delay" "delay" (.one .number) ],
      returns := [] } ]

def events : List Event :=
  [ { name := "AnimationCanceled", method := "Animation.animationCanceled",
      fields :=
        [ .required "id_" "id" (.one .text) ] },
    { name := "AnimationCreated", method := "Animation.animationCreated",
      fields :=
        [ .required "id_" "id" (.one .text) ] },
    { name := "AnimationStarted", method := "Animation.animationStarted",
      fields :=
        [ .required "animation" "animation" (.one (.ref "animation" "Animation")) ] } ]

def domain : DevTools.Domain where
  name := "Animation"
  scope := "animation"
  types := types
  commands := commands
  events := events

end DevTools.Domain.Animation
