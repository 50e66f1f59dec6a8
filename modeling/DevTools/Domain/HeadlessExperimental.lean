import DevTools.Schema

namespace DevTools.Domain.HeadlessExperimental

def types : List Declaration :=
  [ .record "ScreenshotParams"
      [ .optional "format_" "format" (.one .text),
        .optional "quality" "quality" (.one .integer) ] ]

def commands : List Command :=
  [ { name := "begin_frame", method := "HeadlessExperimental.beginFrame",
      parameters :=
        [ .optional "frame_time_ticks" "frameTimeTicks" (.one .number),
          .optional "interval" "interval" (.one .number),
          .optional "no_display_updates" "noDisplayUpdates" (.one .boolean),
          .optional "screenshot" "screenshot"
            (.one (.ref "headless_experimental" "ScreenshotParams")) ],
      returns :=
        [ .required "hasDamage" (.one .boolean),
          .optional "screenshotData" (.one .text) ] },
    { name := "disable", method := "HeadlessExperimental.disable",
      parameters := [],
      returns := [] },
    { name := "enable", method := "HeadlessExperimental.enable",
      parameters := [],
      returns := [] } ]

def events : List Event :=
  [ { name := "NeedsBeginFramesChanged",
      method := "HeadlessExperimental.needsBeginFramesChanged", deprecated := true,
      fields :=
        [ .required "needs_begin_frames" "needsBeginFrames" (.one .boolean) ] } ]

def domain : DevTools.Domain where
  name := "HeadlessExperimental"
  scope := "headless_experimental"
  types := types
  commands := commands
  events := events

end DevTools.Domain.HeadlessExperimental
