import DevTools.Schema

namespace DevTools.Domain.Cast

def types : List Declaration :=
  [ .record "Sink"
      [ .required "name" "name" (.one .text),
        .required "id_" "id" (.one .text),
        .optional "session" "session" (.one .text) ] ]

def commands : List Command :=
  [ { name := "enable", method := "Cast.enable",
      parameters :=
        [ .optional "presentation_url" "presentationUrl" (.one .text) ],
      returns := [] },
    { name := "disable", method := "Cast.disable",
      parameters := [],
      returns := [] },
    { name := "set_sink_to_use", method := "Cast.setSinkToUse",
      parameters :=
        [ .required "sink_name" "sinkName" (.one .text) ],
      returns := [] },
    { name := "start_desktop_mirroring", method := "Cast.startDesktopMirroring",
      parameters :=
        [ .required "sink_name" "sinkName" (.one .text) ],
      returns := [] },
    { name := "start_tab_mirroring", method := "Cast.startTabMirroring",
      parameters :=
        [ .required "sink_name" "sinkName" (.one .text) ],
      returns := [] },
    { name := "stop_casting", method := "Cast.stopCasting",
      parameters :=
        [ .required "sink_name" "sinkName" (.one .text) ],
      returns := [] } ]

def events : List Event :=
  [ { name := "SinksUpdated", method := "Cast.sinksUpdated",
      fields :=
        [ .required "sinks" "sinks" (.many (.ref "cast" "Sink")) ] },
    { name := "IssueUpdated", method := "Cast.issueUpdated",
      fields :=
        [ .required "issue_message" "issueMessage" (.one .text) ] } ]

def domain : DevTools.Domain where
  name := "Cast"
  scope := "cast"
  types := types
  commands := commands
  events := events

end DevTools.Domain.Cast
