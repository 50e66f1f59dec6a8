import DevTools.Schema

namespace DevTools.Domain.InputOutput

def types : List Declaration :=
  [ .wrapper "StreamHandle" .text ]

def commands : List Command :=
  [ { name := "close", method := "IO.close",
      parameters :=
        [ .required "handle" "handle" (.one (.ref "io" "StreamHandle")) ],
      returns := [] },
    { name := "read", method := "IO.read",
      parameters :=
        [ .required "handle" "handle" (.one (.ref "io" "StreamHandle")),
          .optional "offset" "offset" (.one .integer),
          .optional "size" "size" (.one .integer) ],
      returns :=
        [ .optional "base64Encoded" (.one .boolean),
          .required "data" (.one .text),
          .required "eof" (.one .boolean) ] },
    { name := "resolve_blob", method := "IO.resolveBlob",
      parameters :=
        [ .required "object_id" "objectId" (.one (.ref "runtime" "RemoteObjectId")) ],
      returns :=
        [ .required "uuid" (.one .text) ] } ]

def events : List Event := []

def domain : DevTools.Domain where
  name := "IO"
  scope := "io"
  types := types
  commands := commands
  events := events

end DevTools.Domain.InputOutput
