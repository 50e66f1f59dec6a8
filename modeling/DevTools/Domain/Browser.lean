import DevTools.Schema

namespace DevTools.Domain.Browser

def types : List Declaration :=
  [ .wrapper "BrowserContextID" .text,
    .wrapper "WindowID" .integer,
    .enumeration "WindowState"
      [ ("NORMAL", "normal"), ("MINIMIZED", "minimized"), ("MAXIMIZED", "maximized"),
        ("FULLSCREEN", "fullscreen") ],
    .record "Bounds"
      [ .optional "left" "left" (.one .integer),
        .optional "top" "top" (.one .integer),
        .optional "width" "width" (.one .integer),
        .optional "height" "height" (.one .integer),
        .optional "window_state" "windowState" (.one (.ref "browser" "WindowState")) ],
    .enumeration "PermissionType"
      [ ("ACCESSIBILITY_EVENTS", "accessibilityEvents"), ("AUDIO_CAPTURE", "audioCapture"),
        ("BACKGROUND_SYNC", "backgroundSync"), ("BACKGROUND_FETCH", "backgroundFetch"),
        ("CLIPBOARD_READ_WRITE", "clipboardReadWrite"),
        ("CLIPBOARD_SANITIZED_WRITE", "clipboardSanitizedWrite"),
        ("DISPLAY_CAPTURE", "displayCapture"), ("DURABLE_STORAGE", "durableStorage"),
        ("FLASH", "flash"), ("GEOLOCATION", "geolocation"), ("MIDI", "midi"),
        ("MIDI_SYSEX", "midiSysex"), ("NFC", "nfc"), ("NOTIFICATIONS", "notifications"),
        ("PAYMENT_HANDLER", "paymentHandler"),
        ("PERIODIC_BACKGROUND_SYNC", "periodicBackgroundSync"),
        ("PROTECTED_MEDIA_IDENTIFIER", "protectedMediaIdentifier"), ("SENSORS", "sensors"),
        ("VIDEO_CAPTURE", "videoCapture"),
        ("VIDEO_CAPTURE_PAN_TILT_ZOOM", "videoCapturePanTiltZoom"),
        ("IDLE_DETECTION", "idleDetection"), ("WAKE_LOCK_SCREEN", "wakeLockScreen"),
        ("WAKE_LOCK_SYSTEM", "wakeLockSystem") ],
    .enumeration "PermissionSetting"
      [ ("GRANTED", "granted"), ("DENIED", "denied"), ("PROMPT", "prompt") ],
    .record "PermissionDescriptor"
      [ .required "name" "name" (.one .text),
        .optional "sysex" "sysex" (.one .boolean),
        .optional "user_visible_only" "userVisibleOnly" (.one .boolean),
        .optional "allow_without_sanitization" "allowWithoutSanitization" (.one .boolean),
        .optional "pan_tilt_zoom" "panTiltZoom" (.one .boolean) ],
    .enumeration "BrowserCommandId"
      [ ("OPEN_TAB_SEARCH", "openTabSearch"), ("CLOSE_TAB_SEARCH", "closeTabSearch") ],
    .record "Bucket"
      [ .required "low" "low" (.one .integer),
        .required "high" "high" (.one .integer),
        .required "count" "count" (.one .integer) ],
    .record "Histogram"
      [ .required "name" "name" (.one .text),
        .required "sum_" "sum" (.one .integer),
        .required "count" "count" (.one .integer),
        .required "buckets" "buckets" (.many (.ref "browser" "Bucket")) ] ]

def commands : List Command :=
  [ { name := "set_permission", method := "Browser.setPermission",
      parameters :=
        [ .required "permission" "permission" (.one (.ref "browser" "PermissionDescriptor")),
          .required "setting" "setting" (.one (.ref "browser" "PermissionSetting")),
          .optional "origin" "origin" (.one .text),
          .optional "browser_context_id" "browserContextId"
            (.one (.ref "browser" "BrowserContextID")) ],
      returns := [] },
    { name := "grant_permissions", method := "Browser.grantPermissions",
      parameters :=
        [ .required "permissions" "permissions" (.many (.ref "browser" "PermissionType")),
          .optional "origin" "origin" (.one .text),
          .optional "browser_context_id" "browserContextId"
            (.one (.ref "browser" "BrowserContextID")) ],
      returns := [] },
    { name := "reset_permissions", method := "Browser.resetPermissions",
      parameters :=
        [ .optional "browser_context_id" "browserContextId"
            (.one (.ref "browser" "BrowserContextID")) ],
      returns := [] },
    { name := "set_download_behavior", method := "Browser.setDownloadBehavior",
      parameters :=
        [ .required "behavior" "behavior" (.one .text),
          .optional "browser_context_id" "browserContextId"
            (.one (.ref "browser" "BrowserContextID")),
          .optional "download_path" "downloadPath" (.one .text),
          .optional "events_enabled" "eventsEnabled" (.one .boolean) ],
      returns := [] },
    { name := "cancel_download", method := "Browser.cancelDownload",
      parameters :=
        [ .required "guid" "guid" (.one .text),
          .optional "browser_context_id" "browserContextId"
            (.one (.ref "browser" "BrowserContextID")) ],
      returns := [] },
    { name := "close", method := "Browser.close",
      parameters := [],
      returns := [] },
    { name := "crash", method := "Browser.crash",
      parameters := [],
      returns := [] },
    { name := "crash_gpu_process", method := "Browser.crashGpuProcess",
      parameters := [],
      returns := [] },
    { name := "get_version", method := "Browser.getVersion",
      parameters := [],
      returns :=
        [ .required "protocolVersion" (.one .text),
          .required "product" (.one .text),
          .required "revision" (.one .text),
          .required "userAgent" (.one .text),
          .required "jsVersion" (.one .text) ] },
    { name := "get_browser_command_line", method := "Browser.getBrowserCommandLine",
      parameters := [],
      returns :=
        [ .required "arguments" (.many .text) ] },
    { name := "get_histograms", method := "Browser.getHistograms",
      parameters :=
        [ .optional "query" "query" (.one .text),
          .optional "delta" "delta" (.one .boolean) ],
      returns :=
        [ .required "histograms" (.many (.ref "browser" "Histogram")) ] },
    { name := "get_histogram", method := "Browser.getHistogram",
      parameters :=
        [ .required "name" "name" (.one .text),
          .optional "delta" "delta" (.one .boolean) ],
      returns :=
        [ .required "histogram" (.one (.ref "browser" "Histogram")) ] },
    { name := "get_window_bounds", method := "Browser.getWindowBounds",
      parameters :=
        [ .required "window_id" "windowId" (.one (.ref "browser" "WindowID")) ],
      returns :=
        [ .required "bounds" (.one (.ref "browser" "Bounds")) ] },
    { name := "get_window_for_target", method := "Browser.getWindowForTarget",
      parameters :=
        [ .optional "target_id" "targetId" (.one (.ref "target" "TargetID")) ],
      returns :=
        [ .required "windowId" (.one (.ref "browser" "WindowID")),
          .required "bounds" (.one (.ref "browser" "Bounds")) ] },
    { name := "set_window_bounds", method := "Browser.setWindowBounds",
      parameters :=
        [ .required "window_id" "windowId" (.one (.ref "browser" "WindowID")),
          .required "bounds" "bounds" (.one (.ref "browser" "Bounds")) ],
      returns := [] },
    { name := "set_dock_tile", method := "Browser.setDockTile",
      parameters :=
        [ .optional "badge_label" "badgeLabel" (.one .text),
          .optional "image" "image" (.one .text) ],
      returns := [] },
    { name := "execute_browser_command", method := "Browser.executeBrowserCommand",
      parameters :=
        [ .required "command_id" "commandId" (.one (.ref "browser" "BrowserCommandId")) ],
      returns := [] } ]

def events : List Event :=
  [ { name := "DownloadWillBegin", method := "Browser.downloadWillBegin",
      fields :=
        [ .required "frame_id" "frameId" (.one (.ref "page" "FrameId")),
          .required "guid" "guid" (.one .text),
          .required "url" "url" (.one .text),
          .required "suggested_filename" "suggestedFilename" (.one .text) ] },
    { name := "DownloadProgress", method := "Browser.downloadProgress",
      fields :=
        [ .required "guid" "guid" (.one .text),
          .required "total_bytes" "totalBytes" (.one .number),
          .required "received_bytes" "receivedBytes" (.one .number),
          .required "state" "state" (.one .text) ] } ]

def domain : DevTools.Domain where
  name := "Browser"
  scope := "browser"
  types := types
  commands := commands
  events := events

end DevTools.Domain.Browser
