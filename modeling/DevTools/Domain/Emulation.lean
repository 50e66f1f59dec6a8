import DevTools.Schema

namespace DevTools.Domain.Emulation

def types : List Declaration :=
  [ .record "ScreenOrientation"
      [ .required "type_" "type" (.one .text),
        .required "angle" "angle" (.one .integer) ],
    .record "DisplayFeature"
      [ .required "orientation" "orientation" (.one .text),
        .required "offset" "offset" (.one .integer),
        .required "mask_length" "maskLength" (.one .integer) ],
    .record "MediaFeature"
      [ .required "name" "name" (.one .text),
        .required "value" "value" (.one .text) ],
    .enumeration "VirtualTimePolicy"
      [ ("ADVANCE", "advance"), ("PAUSE", "pause"),
        ("PAUSE_IF_NETWORK_FETCHES_PENDING", "pauseIfNetworkFetchesPending") ],
    .record "UserAgentBrandVersion"
      [ .required "brand" "brand" (.one .text),
        .required "version" "version" (.one .text) ],
    .record "UserAgentMetadata"
      [ .required "platform" "platform" (.one .text),
        .required "platform_version" "platformVersion" (.one .text),
        .required "architecture" "architecture" (.one .text),
        .required "model" "model" (.one .text),
        .required "mobile" "mobile" (.one .boolean),
        .optional "brands" "brands" (.many (.ref "emulation" "UserAgentBrandVersion")),
        .optional "full_version_list" "fullVersionList"
          (.many (.ref "emulation" "UserAgentBrandVersion")),
        .optional "full_version" "fullVersion" (.one .text) ],
    .enumeration "DisabledImageType" [("AVIF", "avif"), ("JXL", "jxl"), ("WEBP", "webp")] ]

def commands : List Command :=
  [ { name := "can_emulate", method := "Emulation.canEmulate",
      parameters := [],
      returns :=
        [ .required "result" (.one .boolean) ] },
    { name := "clear_device_metrics_override", method := "Emulation.clearDeviceMetricsOverride",
      parameters := [],
      returns := [] },
    { name := "clear_geolocation_override", method := "Emulation.clearGeolocationOverride",
      parameters := [],
      returns := [] },
    { name := "reset_page_scale_factor", method := "Emulation.resetPageScaleFactor",
      parameters := [],
      returns := [] },
    { name := "set_focus_emulation_enabled", method := "Emulation.setFocusEmulationEnabled",
      parameters :=
        [ .required "enabled" "enabled" (.one .boolean) ],
      returns := [] },
    { name := "set_auto_dark_mode_override", method := "Emulation.setAutoDarkModeOverride",
      parameters :=
        [ .optional "enabled" "enabled" (.one .boolean) ],
      returns := [] },
    { name := "set_cpu_throttling_rate", method := "Emulation.setCPUThrottlingRate",
      parameters :=
        [ .required "rate" "rate" (.one .number) ],
      returns := [] },
    { name := "set_default_background_color_override",
      method := "Emulation.setDefaultBackgroundColorOverride",
      parameters :=
        [ .optional "color" "color" (.one (.ref "dom" "RGBA")) ],
      returns := [] },
    { name := "set_device_metrics_override", method := "Emulation.setDeviceMetricsOverride",
      parameters :=
        [ .required "width" "width" (.one .integer),
          .required "height" "height" (.one .integer),
          .required "device_scale_factor" "deviceScaleFactor" (.one .number),
          .required "mobile" "mobile" (.one .boolean),
          .optional "scale" "scale" (.one .number),
          .optional "screen_width" "screenWidth" (.one .integer),
          .optional "screen_height" "screenHeight" (.one .integer),
          .optional "position_x" "positionX" (.one .integer),
          .optional "position_y" "positionY" (.one .integer),
          .optional "dont_set_visible_size" "dontSetVisibleSize" (.one .boolean),
          .optional "screen_orientation" "screenOrientation"
            (.one (.ref "emulation" "ScreenOrientation")),
          .optional "viewport" "viewport" (.one (.ref "page" "Viewport")),
          .optional "display_feature" "displayFeature"
            (.one (.ref "emulation" "DisplayFeature")) ],
      returns := [] },
    { name := "set_scrollbars_hidden", method := "Emulation.setScrollbarsHidden",
      parameters :=
        [ .required "hidden" "hidden" (.one .boolean) ],
      returns := [] },
    { name := "set_document_cookie_disabled", method := "Emulation.setDocumentCookieDisabled",
      parameters :=
        [ .required "disabled" "disabled" (.one .boolean) ],
      returns := [] },
    { name := "set_emit_touch_events_for_mouse",
      method := "Emulation.setEmitTouchEventsForMouse",
      parameters :=
        [ .required "enabled" "enabled" (.one .boolean),
          .optional "configuration" "configuration" (.one .text) ],
      returns := [] },
    { name := "set_emulated_media", method := "Emulation.setEmulatedMedia",
      parameters :=
        [ .optional "media" "media" (.one .text),
          .optional "features" "features" (.many (.ref "emulation" "MediaFeature")) ],
      returns := [] },
    { name := "set_emulated_vision_deficiency",
      method := "Emulation.setEmulatedVisionDeficiency",
      parameters :=
        [ .required "type_" "type" (.one .text) ],
      returns := [] },
    { name := "set_geolocation_override", method := "Emulation.setGeolocationOverride",
      parameters :=
        [ .optional "latitude" "latitude" (.one .number),
          .optional "longitude" "longitude" (.one .number),
          .optional "accuracy" "accuracy" (.one .number) ],
      returns := [] },
    { name := "set_idle_override", method := "Emulation.setIdleOverride",
      parameters :=
        [ .required "is_user_active" "isUserActive" (.one .boolean),
          .required "is_screen_unlocked" "isScreenUnlocked" (.one .boolean) ],
      returns := [] },
    { name := "clear_idle_override", method := "Emulation.clearIdleOverride",
      parameters := [],
      returns := [] },
    { name := "set_navigator_overrides",
      method := "Emulation.setNavigatorOverrides", deprecated := true,
      parameters :=
        [ .required "platform" "platform" (.one .text) ],
      returns := [] },
    { name := "set_page_scale_factor", method := "Emulation.setPageScaleFactor",
      parameters :=
        [ .required "page_scale_factor" "pageScaleFactor" (.one .number) ],
      returns := [] },
    { name := "set_script_execution_disabled", method := "Emulation.setScriptExecutionDisabled",
      parameters :=
        [ .required "value" "value" (.one .boolean) ],
      returns := [] },
    { name := "set_touch_emulation_enabled", method := "Emulation.setTouchEmulationEnabled",
      parameters :=
        [ .required "enabled" "enabled" (.one .boolean),
          .optional "max_touch_points" "maxTouchPoints" (.one .integer) ],
      returns := [] },
    { name := "set_virtual_time_policy", method := "Emulation.setVirtualTimePolicy",
      parameters :=
        [ .required "policy" "policy" (.one (.ref "emulation" "VirtualTimePolicy")),
          .optional "budget" "budget" (.one .number),
          .optional "max_virtual_time_task_starvation_count" "maxVirtualTimeTaskStarvationCount"
            (.one .integer),
          .optional "wait_for_navigation" "waitForNavigation" (.one .boolean),
          .optional "initial_virtual_time" "initialVirtualTime"
            (.one (.ref "network" "TimeSinceEpoch")) ],
      returns :=
        [ .required "virtualTimeTicksBase" (.one .number) ] },
    { name := "set_locale_override", method := "Emulation.setLocaleOverride",
      parameters :=
        [ .optional "locale" "locale" (.one .text) ],
      returns := [] },
    { name := "set_timezone_override", method := "Emulation.setTimezoneOverride",
      parameters :=
        [ .required "timezone_id" "timezoneId" (.one .text) ],
      returns := [] },
    { name := "set_visible_size", method := "Emulation.setVisibleSize", deprecated := true,
      parameters :=
        [ .required "width" "width" (.one .integer),
          .required "height" "height" (.one .integer) ],
      returns := [] },
    { name := "set_disabled_image_types", method := "Emulation.setDisabledImageTypes",
      parameters :=
        [ .required "image_types" "imageTypes" (.many (.ref "emulation" "DisabledImageType")) ],
      returns := [] },
    { name := "set_user_agent_override", method := "Emulation.setUserAgentOverride",
      parameters :=
        [ .required "user_agent" "userAgent" (.one .text),
          .optional "accept_language" "acceptLanguage" (.one .text),
          .optional "platform" "platform" (.one .text),
          .optional "user_agent_metadata" "userAgentMetadata"
            (.one (.ref "emulation" "UserAgentMetadata")) ],
      returns := [] } ]

def events : List Event :=
  [ { name := "VirtualTimeBudgetExpired", method := "Emulation.virtualTimeBudgetExpired",
      fields := [] } ]

def domain : DevTools.Domain where
  name := "Emulation"
  scope := "emulation"
  types := types
  commands := commands
  events := events

end DevTools.Domain.Emulation
