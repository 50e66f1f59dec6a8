import DevTools.Schema

namespace DevTools.Domain.Media

def types : List Declaration :=
  [ .wrapper "PlayerId" .text,
    .wrapper "Timestamp" .number,
    .record "PlayerMessage"
      [ .required "level" "level" (.one .text),
        .required "message" "message" (.one .text) ],
    .record "PlayerProperty"
      [ .required "name" "name" (.one .text),
        .required "value" "value" (.one .text) ],
    .record "PlayerEvent"
      [ .required "timestamp" "timestamp" (.one (.ref "media" "Timestamp")),
        .required "value" "value" (.one .text) ],
    .record "PlayerError"
      [ .required "type_" "type" (.one .text),
        .required "error_code" "errorCode" (.one .text) ] ]

def commands : List Command :=
  [ { name := "enable", method := "Media.enable",
      parameters := [],
      returns := [] },
    { name := "disable", method := "Media.disable",
      parameters := [],
      returns := [] } ]

def events : List Event :=
  [ { name := "PlayerPropertiesChanged", method := "Media.playerPropertiesChanged",
      fields :=
        [ .required "player_id" "playerId" (.one (.ref "media" "PlayerId")),
          .required "properties" "properties" (.many (.ref "media" "PlayerProperty")) ] },
    { name := "PlayerEventsAdded", method := "Media.playerEventsAdded",
      fields :=
        [ .required "player_id" "playerId" (.one (.ref "media" "PlayerId")),
          .required "events" "events" (.many (.ref "media" "PlayerEvent")) ] },
    { name := "PlayerMessagesLogged", method := "Media.playerMessagesLogged",
      fields :=
        [ .required "player_id" "playerId" (.one (.ref "media" "PlayerId")),
          .required "messages" "messages" (.many (.ref "media" "PlayerMessage")) ] },
    { name := "PlayerErrorsRaised", method := "Media.playerErrorsRaised",
      fields :=
        [ .required "player_id" "playerId" (.one (.ref "media" "PlayerId")),
          .required "errors" "errors" (.many (.ref "media" "PlayerError")) ] },
    { name := "PlayersCreated", method := "Media.playersCreated",
      fields :=
        [ .required "players" "players" (.many (.ref "media" "PlayerId")) ] } ]

def domain : DevTools.Domain where
  name := "Media"
  scope := "media"
  types := types
  commands := commands
  events := events

end DevTools.Domain.Media
