import DevTools.Schema

namespace DevTools.Domain.Target

def types : List Declaration :=
  [ .wrapper "TargetID" .text,
    .wrapper "SessionID" .text,
    .record "TargetInfo"
      [ .required "target_id" "targetId" (.one (.ref "target" "TargetID")),
        .required "type_" "type" (.one .text),
        .required "title" "title" (.one .text),
        .required "url" "url" (.one .text),
        .required "attached" "attached" (.one .boolean),
        .required "can_access_opener" "canAccessOpener" (.one .boolean),
        .optional "opener_id" "openerId" (.one (.ref "target" "TargetID")),
        .optional "opener_frame_id" "openerFrameId" (.one (.ref "page" "FrameId")),
        .optional "browser_context_id" "browserContextId"
          (.one (.ref "browser" "BrowserContextID")) ],
    .record "RemoteLocation"
      [ .required "host" "host" (.one .text),
        .required "port" "port" (.one .integer) ] ]

def commands : List Command :=
  [ { name := "activate_target", method := "Target.activateTarget",
      parameters :=
        [ .required "target_id" "targetId" (.one (.ref "target" "TargetID")) ],
      returns := [] },
    { name := "attach_to_target", method := "Target.attachToTarget",
      parameters :=
        [ .required "target_id" "targetId" (.one (.ref "target" "TargetID")),
          .optional "flatten" "flatten" (.one .boolean) ],
      returns :=
        [ .required "sessionId" (.one (.ref "target" "SessionID")) ] },
    { name := "attach_to_browser_target", method := "Target.attachToBrowserTarget",
      parameters := [],
      returns :=
        [ .required "sessionId" (.one (.ref "target" "SessionID")) ] },
    { name := "close_target", method := "Target.closeTarget",
      parameters :=
        [ .required "target_id" "targetId" (.one (.ref "target" "TargetID")) ],
      returns :=
        [ .required "success" (.one .boolean) ] },
    { name := "expose_dev_tools_protocol", method := "Target.exposeDevToolsProtocol",
      parameters :=
        [ .required "target_id" "targetId" (.one (.ref "target" "TargetID")),
          .optional "binding_name" "bindingName" (.one .text) ],
      returns := [] },
    { name := "create_browser_context", method := "Target.createBrowserContext",
      parameters :=
        [ .optional "dispose_on_detach" "disposeOnDetach" (.one .boolean),
          .optional "proxy_server" "proxyServer" (.one .text),
          .optional "proxy_bypass_list" "proxyBypassList" (.one .text),
          .optional "origins_with_universal_network_access" "originsWithUniversalNetworkAccess"
            (.many .text) ],
      returns :=
        [ .required "browserContextId" (.one (.ref "browser" "BrowserContextID")) ] },
    { name := "get_browser_contexts", method := "Target.getBrowserContexts",
      parameters := [],
      returns :=
        [ .required "browserContextIds" (.many (.ref "browser" "BrowserContextID")) ] },
    { name := "create_target", method := "Target.createTarget",
      parameters :=
        [ .required "url" "url" (.one .text),
          .optional "width" "width" (.one .integer),
          .optional "height" "height" (.one .integer),
          .optional "browser_context_id" "browserContextId"
            (.one (.ref "browser" "BrowserContextID")),
          .optional "enable_begin_frame_control" "enableBeginFrameControl" (.one .boolean),
          .optional "new_window" "newWindow" (.one .boolean),
          .optional "background" "background" (.one .boolean) ],
      returns :=
        [ .required "targetId" (.one (.ref "target" "TargetID")) ] },
    { name := "detach_from_target", method := "Target.detachFromTarget",
      parameters :=
        [ .optional "session_id" "sessionId" (.one (.ref "target" "SessionID")),
          .optional "target_id" "targetId" (.one (.ref "target" "TargetID")) ],
      returns := [] },
    { name := "dispose_browser_context", method := "Target.disposeBrowserContext",
      parameters :=
        [ .required "browser_context_id" "browserContextId"
            (.one (.ref "browser" "BrowserContextID")) ],
      returns := [] },
    { name := "get_target_info", method := "Target.getTargetInfo",
      parameters :=
        [ .optional "target_id" "targetId" (.one (.ref "target" "TargetID")) ],
      returns :=
        [ .required "targetInfo" (.one (.ref "target" "TargetInfo")) ] },
    { name := "get_targets", method := "Target.getTargets",
      parameters := [],
      returns :=
        [ .required "targetInfos" (.many (.ref "target" "TargetInfo")) ] },
    { name := "send_message_to_target",
      method := "Target.sendMessageToTarget", deprecated := true,
      parameters :=
        [ .required "message" "message" (.one .text),
          .optional "session_id" "sessionId" (.one (.ref "target" "SessionID")),
          .optional "target_id" "targetId" (.one (.ref "target" "TargetID")) ],
      returns := [] },
    { name := "set_auto_attach", method := "Target.setAutoAttach",
      parameters :=
        [ .required "auto_attach" "autoAttach" (.one .boolean),
          .required "wait_for_debugger_on_start" "waitForDebuggerOnStart" (.one .boolean),
          .optional "flatten" "flatten" (.one .boolean) ],
      returns := [] },
    { name := "auto_attach_related", method := "Target.autoAttachRelated",
      parameters :=
        [ .required "target_id" "targetId" (.one (.ref "target" "TargetID")),
          .required "wait_for_debugger_on_start" "waitForDebuggerOnStart" (.one .boolean) ],
      returns := [] },
    { name := "set_discover_targets", method := "Target.setDiscoverTargets",
      parameters :=
        [ .required "discover" "discover" (.one .boolean) ],
      returns := [] },
    { name := "set_remote_locations", method := "Target.setRemoteLocations",
      parameters :=
        [ .required "locations" "locations" (.many (.ref "target" "RemoteLocation")) ],
      returns := [] } ]

def events : List Event :=
  [ { name := "AttachedToTarget", method := "Target.attachedToTarget",
      fields :=
        [ .required "session_id" "sessionId" (.one (.ref "target" "SessionID")),
          .required "target_info" "targetInfo" (.one (.ref "target" "TargetInfo")),
          .required "waiting_for_debugger" "waitingForDebugger" (.one .boolean) ] },
    { name := "DetachedFromTarget", method := "Target.detachedFromTarget",
      fields :=
        [ .required "session_id" "sessionId" (.one (.ref "target" "SessionID")),
          .optional "target_id" "targetId" (.one (.ref "target" "TargetID")) ] },
    { name := "ReceivedMessageFromTarget", method := "Target.receivedMessageFromTarget",
      fields :=
        [ .required "session_id" "sessionId" (.one (.ref "target" "SessionID")),
          .required "message" "message" (.one .text),
          .optional "target_id" "targetId" (.one (.ref "target" "TargetID")) ] },
    { name := "TargetCreated", method := "Target.targetCreated",
      fields :=
        [ .required "target_info" "targetInfo" (.one (.ref "target" "TargetInfo")) ] },
    { name := "TargetDestroyed", method := "Target.targetDestroyed",
      fields :=
        [ .required "target_id" "targetId" (.one (.ref "target" "TargetID")) ] },
    { name := "TargetCrashed", method := "Target.targetCrashed",
      fields :=
        [ .required "target_id" "targetId" (.one (.ref "target" "TargetID")),
          .required "status" "status" (.one .text),
          .required "error_code" "errorCode" (.one .integer) ] },
    { name := "TargetInfoChanged", method := "Target.targetInfoChanged",
      fields :=
        [ .required "target_info" "targetInfo" (.one (.ref "target" "TargetInfo")) ] } ]

def domain : DevTools.Domain where
  name := "Target"
  scope := "target"
  types := types
  commands := commands
  events := events

end DevTools.Domain.Target
