import DevTools.Schema

namespace DevTools.Domain.Tethering

def types : List Declaration := []

def commands : List Command :=
  [ { name := "bind", method := "Tethering.bind",
      parameters :=
        [ .required "port" "port" (.one .integer) ],
      returns := [] },
    { name := "unbind", method := "Tethering.unbind",
      parameters :=
        [ .required "port" "port" (.one .integer) ],
      returns := [] } ]

def events : List Event :=
  [ { name := "Accepted", method := "Tethering.accepted",
      fields :=
        [ .required "port" "port" (.one .integer),
          .required "connection_id" "connectionId" (.one .text) ] } ]

def domain : DevTools.Domain where
  name := "Tethering"
  scope := "tethering"
  types := types
  commands := commands
  events := events

end DevTools.Domain.Tethering
