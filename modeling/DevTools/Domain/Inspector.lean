import DevTools.Schema

namespace DevTools.Domain.Inspector

def types : List Declaration := []

def commands : List Command :=
  [ { name := "disable", method := "Inspector.disable",
      parameters := [],
      returns := [] },
    { name := "enable", method := "Inspector.enable",
      parameters := [],
      returns := [] } ]

def events : List Event :=
  [ { name := "Detached", method := "Inspector.detached",
      fields :=
        [ .required "reason" "reason" (.one .text) ] },
    { name := "TargetCrashed", method := "Inspector.targetCrashed",
      fields := [] },
    { name := "TargetReloadedAfterCrash", method := "Inspector.targetReloadedAfterCrash",
      fields := [] } ]

def domain : DevTools.Domain where
  name := "Inspector"
  scope := "inspector"
  types := types
  commands := commands
  events := events

end DevTools.Domain.Inspector
