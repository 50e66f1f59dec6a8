import DevTools.Schema

namespace DevTools.Domain.Performance

def types : List Declaration :=
  [ .record "Metric"
      [ .required "name" "name" (.one .text),
        .required "value" "value" (.one .number) ] ]

def commands : List Command :=
  [ { name := "disable", method := "Performance.disable",
      parameters := [],
      returns := [] },
    { name := "enable", method := "Performance.enable",
      parameters :=
        [ .optional "time_domain" "timeDomain" (.one .text) ],
      returns := [] },
    { name := "set_time_domain", method := "Performance.setTimeDomain", deprecated := true,
      parameters :=
        [ .required "time_domain" "timeDomain" (.one .text) ],
      returns := [] },
    { name := "get_metrics", method := "Performance.getMetrics",
      parameters := [],
      returns :=
        [ .required "metrics" (.many (.ref "performance" "Metric")) ] } ]

def events : List Event :=
  [ { name := "Metrics", method := "Performance.metrics",
      fields :=
        [ .required "metrics" "metrics" (.many (.ref "performance" "Metric")),
          .required "title" "title" (.one .text) ] } ]

def domain : DevTools.Domain where
  name := "Performance"
  scope := "performance"
  types := types
  commands := commands
  events := events

end DevTools.Domain.Performance
