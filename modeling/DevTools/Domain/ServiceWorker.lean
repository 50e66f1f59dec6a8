import DevTools.Schema

namespace DevTools.Domain.ServiceWorker

def types : List Declaration :=
  [ .wrapper "RegistrationID" .text,
    .record "ServiceWorkerRegistration"
      [ .required "registration_id" "registrationId"
          (.one (.ref "service_worker" "RegistrationID")),
        .required "scope_url" "scopeURL" (.one .text),
        .required "is_deleted" "isDeleted" (.one .boolean) ],
    .enumeration "ServiceWorkerVersionRunningStatus"
      [ ("STOPPED", "stopped"), ("STARTING", "starting"), ("RUNNING", "running"),
        ("STOPPING", "stopping") ],
    .enumeration "ServiceWorkerVersionStatus"
      [ ("NEW", "new"), ("INSTALLING", "installing"), ("INSTALLED", "installed"),
        ("ACTIVATING", "activating"), ("ACTIVATED", "activated"), ("REDUNDANT", "redundant") ],
    .record "ServiceWorkerVersion"
      [ .required "version_id" "versionId" (.one .text),
        .required "registration_id" "registrationId"
          (.one (.ref "service_worker" "RegistrationID")),
        .required "script_url" "scriptURL" (.one .text),
        .required "running_status" "runningStatus"
          (.one (.ref "service_worker" "ServiceWorkerVersionRunningStatus")),
        .required "status" "status" (.one (.ref "service_worker" "ServiceWorkerVersionStatus")),
        .optional "script_last_modified" "scriptLastModified" (.one .number),
        .optional "script_response_time" "scriptResponseTime" (.one .number),
        .optional "controlled_clients" "controlledClients" (.many (.ref "target" "TargetID")),
        .optional "target_id" "targetId" (.one (.ref "target" "TargetID")) ],
    .record "ServiceWorkerErrorMessage"
      [ .required "error_message" "errorMessage" (.one .text),
        .required "registration_id" "registrationId"
          (.one (.ref "service_worker" "RegistrationID")),
        .required "version_id" "versionId" (.one .text),
        .required "source_url" "sourceURL" (.one .text),
        .required "line_number" "lineNumber" (.one .integer),
        .required "column_number" "columnNumber" (.one .integer) ] ]

def commands : List Command :=
  [ { name := "deliver_push_message", method := "ServiceWorker.deliverPushMessage",
      parameters :=
        [ .required "origin" "origin" (.one .text),
          .required "registration_id" "registrationId"
            (.one (.ref "service_worker" "RegistrationID")),
          .required "data" "data" (.one .text) ],
      returns := [] },
    { name := "disable", method := "ServiceWorker.disable",
      parameters := [],
      returns := [] },
    { name := "dispatch_sync_event", method := "ServiceWorker.dispatchSyncEvent",
      parameters :=
        [ .required "origin" "origin" (.one .text),
          .required "registration_id" "registrationId"
            (.one (.ref "service_worker" "RegistrationID")),
          .required "tag" "tag" (.one .text),
          .required "last_chance" "lastChance" (.one .boolean) ],
      returns := [] },
    { name := "dispatch_periodic_sync_event",
      method := "ServiceWorker.dispatchPeriodicSyncEvent",
      parameters :=
        [ .required "origin" "origin" (.one .text),
          .required "registration_id" "registrationId"
            (.one (.ref "service_worker" "RegistrationID")),
          .required "tag" "tag" (.one .text) ],
      returns := [] },
    { name := "enable", method := "ServiceWorker.enable",
      parameters := [],
      returns := [] },
    { name := "inspect_worker", method := "ServiceWorker.inspectWorker",
      parameters :=
        [ .required "version_id" "versionId" (.one .text) ],
      returns := [] },
    { name := "set_force_update_on_page_load",
      method := "ServiceWorker.setForceUpdateOnPageLoad",
      parameters :=
        [ .required "force_update_on_page_load" "forceUpdateOnPageLoad" (.one .boolean) ],
      returns := [] },
    { name := "skip_waiting", method := "ServiceWorker.skipWaiting",
      parameters :=
        [ .required "scope_url" "scopeURL" (.one .text) ],
      returns := [] },
    { name := "start_worker", method := "ServiceWorker.startWorker",
      parameters :=
        [ .required "scope_url" "scopeURL" (.one .text) ],
      returns := [] },
    { name := "stop_all_workers", method := "ServiceWorker.stopAllWorkers",
      parameters := [],
      returns := [] },
    { name := "stop_worker", method := "ServiceWorker.stopWorker",
      parameters :=
        [ .required "version_id" "versionId" (.one .text) ],
      returns := [] },
    { name := "unregister", method := "ServiceWorker.unregister",
      parameters :=
        [ .required "scope_url" "scopeURL" (.one .text) ],
      returns := [] },
    { name := "update_registration", method := "ServiceWorker.updateRegistration",
      parameters :=
        [ .required "scope_url" "scopeURL" (.one .text) ],
      returns := [] } ]

def events : List Event :=
  [ { name := "WorkerErrorReported", method := "ServiceWorker.workerErrorReported",
      fields :=
        [ .required "error_message" "errorMessage"
            (.one (.ref "service_worker" "ServiceWorkerErrorMessage")) ] },
    { name := "WorkerRegistrationUpdated", method := "ServiceWorker.workerRegistrationUpdated",
      fields :=
        [ .required "registrations" "registrations"
            (.many (.ref "service_worker" "ServiceWorkerRegistration")) ] },
    { name := "WorkerVersionUpdated", method := "ServiceWorker.workerVersionUpdated",
      fields :=
        [ .required "versions" "versions"
            (.many (.ref "service_worker" "ServiceWorkerVersion")) ] } ]

def domain : DevTools.Domain where
  name := "ServiceWorker"
  scope := "service_worker"
  types := types
  commands := commands
  events := events

end DevTools.Domain.ServiceWorker
