import DevTools.Schema

namespace DevTools.Domain.Schema

def types : List Declaration :=
  [ .record "Domain"
      [ .required "name" "name" (.one .text),
        .required "version" "version" (.one .text) ] ]

def commands : List Command :=
  [ { name := "get_domains", method := "Schema.getDomains",
      parameters := [],
      returns :=
        [ .required "domains" (.many (.ref "schema" "Domain")) ] } ]

def events : List Event := []

def domain : DevTools.Domain where
  name := "Schema"
  scope := "schema"
  types := types
  commands := commands
  events := events

end DevTools.Domain.Schema
