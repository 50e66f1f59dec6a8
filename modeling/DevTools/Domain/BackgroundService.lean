import DevTools.Schema

namespace DevTools.Domain.BackgroundService

def types : List Declaration :=
  [ .enumeration "ServiceName"
      [ ("BACKGROUND_FETCH", "backgroundFetch"), ("BACKGROUND_SYNC", "backgroundSync"),
        ("PUSH_MESSAGING", "pushMessaging"), ("NOTIFICATIONS", "notifications"),
        ("PAYMENT_HANDLER", "paymentHandler"),
        ("PERIODIC_BACKGROUND_SYNC", "periodicBackgroundSync") ],
    .record "EventMetadata"
      [ .required "key" "key" (.one .text),
        .required "value" "value" (.one .text) ],
    .record "BackgroundServiceEvent"
      [ .required "timestamp" "timestamp" (.one (.ref "network" "TimeSinceEpoch")),
        .required "origin" "origin" (.one .text),
        .required "service_worker_registration_id" "serviceWorkerRegistrationId"
          (.one (.ref "service_worker" "RegistrationID")),
        .required "service" "service" (.one (.ref "background_service" "ServiceName")),
        .required "event_name" "eventName" (.one .text),
        .required "instance_id" "instanceId" (.one .text),
        .required "event_metadata" "eventMetadata"
          (.many (.ref "background_service" "EventMetadata")) ] ]

def commands : List Command :=
  [ { name := "start_observing", method := "BackgroundService.startObserving",
      parameters :=
        [ .required "service" "service" (.one (.ref "background_service" "ServiceName")) ],
      returns := [] },
    { name := "stop_observing", method := "BackgroundService.stopObserving",
      parameters :=
        [ .required "service" "service" (.one (.ref "background_service" "ServiceName")) ],
      returns := [] },
    { name := "set_recording", method := "BackgroundService.setRecording",
      parameters :=
        [ .required "should_record" "shouldRecord" (.one .boolean),
          .required "service" "service" (.one (.ref "background_service" "ServiceName")) ],
      returns := [] },
    { name := "clear_events", method := "BackgroundService.clearEvents",
      parameters :=
        [ .required "service" "service" (.one (.ref "background_service" "ServiceName")) ],
      returns := [] } ]

def events : List Event :=
  [ { name := "RecordingStateChanged", method := "BackgroundService.recordingStateChanged",
      fields :=
        [ .required "is_recording" "isRecording" (.one .boolean),
          .required "service" "service" (.one (.ref "background_service" "ServiceName")) ] },
    { name := "BackgroundServiceEventReceived",
      method := "BackgroundService.backgroundServiceEventReceived",
      fields :=
        [ .required "background_service_event" "backgroundServiceEvent"
            (.one (.ref "background_service" "BackgroundServiceEvent")) ] } ]

def domain : DevTools.Domain where
  name := "BackgroundService"
  scope := "background_service"
  types := types
  commands := commands
  events := events

end DevTools.Domain.BackgroundService
