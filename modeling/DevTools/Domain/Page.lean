import DevTools.Schema

namespace DevTools.Domain.Page

def types : List Declaration :=
  [ .wrapper "FrameId" .text,
    .enumeration "AdFrameType" [("NONE", "none"), ("CHILD", "child"), ("ROOT", "root")],
    .enumeration "AdFrameExplanation"
      [ ("PARENT_IS_AD", "ParentIsAd"), ("CREATED_BY_AD_SCRIPT", "CreatedByAdScript"),
        ("MATCHED_BLOCKING_RULE", "MatchedBlockingRule") ],
    .record "AdFrameStatus"
      [ .required "ad_frame_type" "adFrameType" (.one (.ref "page" "AdFrameType")),
        .optional "explanations" "explanations" (.many (.ref "page" "AdFrameExplanation")) ],
    .enumeration "SecureContextType"
      [ ("SECURE", "Secure"), ("SECURE_LOCALHOST", "SecureLocalhost"),
        ("INSECURE_SCHEME", "InsecureScheme"), ("INSECURE_ANCESTOR", "InsecureAncestor") ],
    .enumeration "CrossOriginIsolatedContextType"
      [ ("ISOLATED", "Isolated"), ("NOT_ISOLATED", "NotIsolated"),
        ("NOT_ISOLATED_FEATURE_DISABLED", "NotIsolatedFeatureDisabled") ],
    .enumeration "GatedAPIFeatures"
      [ ("SHARED_ARRAY_BUFFERS", "SharedArrayBuffers"),
        ("SHARED_ARRAY_BUFFERS_TRANSFER_ALLOWED", "SharedArrayBuffersTransferAllowed"),
        ("PERFORMANCE_MEASURE_MEMORY", "PerformanceMeasureMemory"),
        ("PERFORMANCE_PROFILE", "PerformanceProfile") ],
    .enumeration "PermissionsPolicyFeature"
      [ ("ACCELEROMETER", "accelerometer"), ("AMBIENT_LIGHT_SENSOR", "ambient-light-sensor"),
        ("ATTRIBUTION_REPORTING", "attribution-reporting"), ("AUTOPLAY", "autoplay"),
        ("CAMERA", "camera"), ("CH_DPR", "ch-dpr"), ("CH_DEVICE_MEMORY", "ch-device-memory"),
        ("CH_DOWNLINK", "ch-downlink"), ("CH_ECT", "ch-ect"),
        ("CH_PREFERS_COLOR_SCHEME", "ch-prefers-color-scheme"), ("CH_RTT", "ch-rtt"),
        ("CH_UA", "ch-ua"), ("CH_UA_ARCH", "ch-ua-arch"), ("CH_UA_BITNESS", "ch-ua-bitness"),
        ("CH_UA_PLATFORM", "ch-ua-platform"), ("CH_UA_MODEL", "ch-ua-model"),
        ("CH_UA_MOBILE", "ch-ua-mobile"), ("CH_UA_FULL_VERSION", "ch-ua-full-version"),
        ("CH_UA_FULL_VERSION_LIST", "ch-ua-full-version-list"),
        ("CH_UA_PLATFORM_VERSION", "ch-ua-platform-version"), ("CH_UA_REDUCED", "ch-ua-reduced"),
        ("CH_VIEWPORT_HEIGHT", "ch-viewport-height"), ("CH_VIEWPORT_WIDTH", "ch-viewport-width"),
        ("CH_WIDTH", "ch-width"), ("CLIPBOARD_READ", "clipboard-read"),
        ("CLIPBOARD_WRITE", "clipboard-write"),
        ("CROSS_ORIGIN_ISOLATED", "cross-origin-isolated"), ("DIRECT_SOCKETS", "direct-sockets"),
        ("DISPLAY_CAPTURE", "display-capture"), ("DOCUMENT_DOMAIN", "document-domain"),
        ("ENCRYPTED_MEDIA", "encrypted-media"),
        ("EXECUTION_WHILE_OUT_OF_VIEWPORT", "execution-while-out-of-viewport"),
        ("EXECUTION_WHILE_NOT_RENDERED", "execution-while-not-rendered"),
        ("FOCUS_WITHOUT_USER_ACTIVATION", "focus-without-user-activation"),
        ("FULLSCREEN", "fullscreen"), ("FROBULATE", "frobulate"), ("GAMEPAD", "gamepad"),
        ("GEOLOCATION", "geolocation"), ("GYROSCOPE", "gyroscope"), ("HID", "hid"),
        ("IDLE_DETECTION", "idle-detection"), ("INTEREST_COHORT", "interest-cohort"),
        ("JOIN_AD_INTEREST_GROUP", "join-ad-interest-group"), ("KEYBOARD_MAP", "keyboard-map"),
        ("MAGNETOMETER", "magnetometer"), ("MICROPHONE", "microphone"), ("MIDI", "midi"),
        ("OTP_CREDENTIALS", "otp-credentials"), ("PAYMENT", "payment"),
        ("PICTURE_IN_PICTURE", "picture-in-picture"),
        ("PUBLICKEY_CREDENTIALS_GET", "publickey-credentials-get"),
        ("RUN_AD_AUCTION", "run-ad-auction"), ("SCREEN_WAKE_LOCK", "screen-wake-lock"),
        ("SERIAL", "serial"), ("SHARED_AUTOFILL", "shared-autofill"),
        ("STORAGE_ACCESS_API", "storage-access-api"), ("SYNC_XHR", "sync-xhr"),
        ("TRUST_TOKEN_REDEMPTION", "trust-token-redemption"), ("USB", "usb"),
        ("VERTICAL_SCROLL", "vertical-scroll"), ("WEB_SHARE", "web-share"),
        ("WINDOW_PLACEMENT", "window-placement"), ("XR_SPATIAL_TRACKING", "xr-spatial-tracking") ],
    .enumeration "PermissionsPolicyBlockReason"
      [ ("HEADER", "Header"), ("IFRAME_ATTRIBUTE", "IframeAttribute") ],
    .record "PermissionsPolicyBlockLocator"
      [ .required "frame_id" "frameId" (.one (.ref "page" "FrameId")),
        .required "block_reason" "blockReason"
          (.one (.ref "page" "PermissionsPolicyBlockReason")) ],
    .record "PermissionsPolicyFeatureState"
      [ .required "feature" "feature" (.one (.ref "page" "PermissionsPolicyFeature")),
        .required "allowed" "allowed" (.one .boolean),
        .optional "locator" "locator" (.one (.ref "page" "PermissionsPolicyBlockLocator")) ],
    .enumeration "OriginTrialTokenStatus"
      [ ("SUCCESS", "Success"), ("NOT_SUPPORTED", "NotSupported"), ("INSECURE", "Insecure"),
        ("EXPIRED", "Expired"), ("WRONG_ORIGIN", "WrongOrigin"),
        ("INVALID_SIGNATURE", "InvalidSignature"), ("MALFORMED", "Malformed"),
        ("WRONG_VERSION", "WrongVersion"), ("FEATURE_DISABLED", "FeatureDisabled"),
        ("TOKEN_DISABLED", "TokenDisabled"),
        ("FEATURE_DISABLED_FOR_USER", "FeatureDisabledForUser"),
        ("UNKNOWN_TRIAL", "UnknownTrial") ],
    .enumeration "OriginTrialStatus"
      [ ("ENABLED", "Enabled"), ("VALID_TOKEN_NOT_PROVIDED", "ValidTokenNotProvided"),
        ("OS_NOT_SUPPORTED", "OSNotSupported"), ("TRIAL_NOT_ALLOWED", "TrialNotAllowed") ],
    .enumeration "OriginTrialUsageRestriction" [("NONE", "None"), ("SUBSET", "Subset")],
    .record "OriginTrialToken"
      [ .required "origin" "origin" (.one .text),
        .required "match_sub_domains" "matchSubDomains" (.one .boolean),
        .required "trial_name" "trialName" (.one .text),
        .required "expiry_time" "expiryTime" (.one (.ref "network" "TimeSinceEpoch")),
        .required "is_third_party" "isThirdParty" (.one .boolean),
        .required "usage_restriction" "usageRestriction"
          (.one (.ref "page" "OriginTrialUsageRestriction")) ],
    .record "OriginTrialTokenWithStatus"
      [ .required "raw_token_text" "rawTokenText" (.one .text),
        .required "status" "status" (.one (.ref "page" "OriginTrialTokenStatus")),
        .optional "parsed_token" "parsedToken" (.one (.ref "page" "OriginTrialToken")) ],
    .record "OriginTrial"
      [ .required "trial_name" "trialName" (.one .text),
        .required "status" "status" (.one (.ref "page" "OriginTrialStatus")),
        .required "tokens_with_status" "tokensWithStatus"
          (.many (.ref "page" "OriginTrialTokenWithStatus")) ],
    .record "Frame"
      [ .required "id_" "id" (.one (.ref "page" "FrameId")),
        .required "loader_id" "loaderId" (.one (.ref "network" "LoaderId")),
        .required "url" "url" (.one .text),
        .required "domain_and_registry" "domainAndRegistry" (.one .text),
        .required "security_origin" "securityOrigin" (.one .text),
        .required "mime_type" "mimeType" (.one .text),
        .required "secure_context_type" "secureContextType"
          (.one (.ref "page" "SecureContextType")),
        .required "cross_origin_isolated_context_type" "crossOriginIsolatedContextType"
          (.one (.ref "page" "CrossOriginIsolatedContextType")),
        .required "gated_api_features" "gatedAPIFeatures"
          (.many (.ref "page" "GatedAPIFeatures")),
        .optional "parent_id" "parentId" (.one (.ref "page" "FrameId")),
        .optional "name" "name" (.one .text),
        .optional "url_fragment" "urlFragment" (.one .text),
        .optional "unreachable_url" "unreachableUrl" (.one .text),
        .optional "ad_frame_status" "adFrameStatus" (.one (.ref "page" "AdFrameStatus")) ],
    .record "FrameResource"
      [ .required "url" "url" (.one .text),
        .required "type_" "type" (.one (.ref "network" "ResourceType")),
        .required "mime_type" "mimeType" (.one .text),
        .optional "last_modified" "lastModified" (.one (.ref "network" "TimeSinceEpoch")),
        .optional "content_size" "contentSize" (.one .number),
        .optional "failed" "failed" (.one .boolean),
        .optional "canceled" "canceled" (.one .boolean) ],
    .record "FrameResourceTree"
      [ .required "frame" "frame" (.one (.ref "page" "Frame")),
        .required "resources" "resources" (.many (.ref "page" "FrameResource")),
        .optional "child_frames" "childFrames" (.many (.ref "page" "FrameResourceTree")) ],
    .record "FrameTree"
      [ .required "frame" "frame" (.one (.ref "page" "Frame")),
        .optional "child_frames" "childFrames" (.many (.ref "page" "FrameTree")) ],
    .wrapper "ScriptIdentifier" .text,
    .enumeration "TransitionType"
      [ ("LINK", "link"), ("TYPED", "typed"), ("ADDRESS_BAR", "address_bar"),
        ("AUTO_BOOKMARK", "auto_bookmark"), ("AUTO_SUBFRAME", "auto_subframe"),
        ("MANUAL_SUBFRAME", "manual_subframe"), ("GENERATED", "generated"),
        ("AUTO_TOPLEVEL", "auto_toplevel"), ("FORM_SUBMIT", "form_submit"), ("RELOAD", "reload"),
        ("KEYWORD", "keyword"), ("KEYWORD_GENERATED", "keyword_generated"), ("OTHER", "other") ],
    .record "NavigationEntry"
      [ .required "id_" "id" (.one .integer),
        .required "url" "url" (.one .text),
        .required "user_typed_url" "userTypedURL" (.one .text),
        .required "title" "title" (.one .text),
        .required "transition_type" "transitionType" (.one (.ref "page" "TransitionType")) ],
    .record "ScreencastFrameMetadata"
      [ .required "offset_top" "offsetTop" (.one .number),
        .required "page_scale_factor" "pageScaleFactor" (.one .number),
        .required "device_width" "deviceWidth" (.one .number),
        .required "device_height" "deviceHeight" (.one .number),
        .required "scroll_offset_x" "scrollOffsetX" (.one .number),
        .required "scroll_offset_y" "scrollOffsetY" (.one .number),
        .optional "timestamp" "timestamp" (.one (.ref "network" "TimeSinceEpoch")) ],
    .enumeration "DialogType"
      [ ("ALERT", "alert"), ("CONFIRM", "confirm"), ("PROMPT", "prompt"),
        ("BEFOREUNLOAD", "beforeunload") ],
    .record "AppManifestError"
      [ .required "message" "message" (.one .text),
        .required "critical" "critical" (.one .integer),
        .required "line" "line" (.one .integer),
        .required "column" "column" (.one .integer) ],
    .record "AppManifestParsedProperties"
      [ .required "scope" "scope" (.one .text) ],
    .record "LayoutViewport"
      [ .required "page_x" "pageX" (.one .integer),
        .required "page_y" "pageY" (.one .integer),
        .required "client_width" "clientWidth" (.one .integer),
        .required "client_height" "clientHeight" (.one .integer) ],
    .record "VisualViewport"
      [ .required "offset_x" "offsetX" (.one .number),
        .required "offset_y" "offsetY" (.one .number),
        .required "page_x" "pageX" (.one .number),
        .required "page_y" "pageY" (.one .number),
        .required "client_width" "clientWidth" (.one .number),
        .required "client_height" "clientHeight" (.one .number),
        .required "scale" "scale" (.one .number),
        .optional "zoom" "zoom" (.one .number) ],
    .record "Viewport"
      [ .required "x" "x" (.one .number),
        .required "y" "y" (.one .number),
        .required "width" "width" (.one .number),
        .required "height" "height" (.one .number),
        .required "scale" "scale" (.one .number) ],
    .record "FontFamilies"
      [ .optional "standard" "standard" (.one .text),
        .optional "fixed" "fixed" (.one .text),
        .optional "serif" "serif" (.one .text),
        .optional "sans_serif" "sansSerif" (.one .text),
        .optional "cursive" "cursive" (.one .text),
        .optional "fantasy" "fantasy" (.one .text),
        .optional "pictograph" "pictograph" (.one .text) ],
    .record "FontSizes"
      [ .optional "standard" "standard" (.one .integer),
        .optional "fixed" "fixed" (.one .integer) ],
    .enumeration "ClientNavigationReason"
      [ ("FORM_SUBMISSION_GET", "formSubmissionGet"),
        ("FORM_SUBMISSION_POST", "formSubmissionPost"),
        ("HTTP_HEADER_REFRESH", "httpHeaderRefresh"), ("SCRIPT_INITIATED", "scriptInitiated"),
        ("META_TAG_REFRESH", "metaTagRefresh"),
        ("PAGE_BLOCK_INTERSTITIAL", "pageBlockInterstitial"), ("RELOAD", "reload"),
        ("ANCHOR_CLICK", "anchorClick") ],
    .enumeration "ClientNavigationDisposition"
      [ ("CURRENT_TAB", "currentTab"), ("NEW_TAB", "newTab"), ("NEW_WINDOW", "newWindow"),
        ("DOWNLOAD", "download") ],
    .record "InstallabilityErrorArgument"
      [ .required "name" "name" (.one .text),
        .required "value" "value" (.one .text) ],
    .record "InstallabilityError"
      [ .required "error_id" "errorId" (.one .text),
        .required "error_arguments" "errorArguments"
          (.many (.ref "page" "InstallabilityErrorArgument")) ],
    .enumeration "ReferrerPolicy"
      [ ("NO_REFERRER", "noReferrer"), ("NO_REFERRER_WHEN_DOWNGRADE", "noReferrerWhenDowngrade"),
        ("ORIGIN", "origin"), ("ORIGIN_WHEN_CROSS_ORIGIN", "originWhenCrossOrigin"),
        ("SAME_ORIGIN", "sameOrigin"), ("STRICT_ORIGIN", "strictOrigin"),
        ("STRICT_ORIGIN_WHEN_CROSS_ORIGIN", "strictOriginWhenCrossOrigin"),
        ("UNSAFE_URL", "unsafeUrl") ],
    .record "CompilationCacheParams"
      [ .required "url" "url" (.one .text),
        .optional "eager" "eager" (.one .boolean) ],
    .enumeration "NavigationType"
      [ ("NAVIGATION", "Navigation"), ("BACK_FORWARD_CACHE_RESTORE", "BackForwardCacheRestore") ],
    .enumeration "BackForwardCacheNotRestoredReason"
      [ ("NOT_MAIN_FRAME", "NotMainFrame"),
        ("BACK_FORWARD_CACHE_DISABLED", "BackForwardCacheDisabled"),
        ("RELATED_ACTIVE_CONTENTS_EXIST", "RelatedActiveContentsExist"),
        ("HTTP_STATUS_NOT_OK", "HTTPStatusNotOK"),
        ("SCHEME_NOT_HTTP_OR_HTTPS", "SchemeNotHTTPOrHTTPS"), ("LOADING", "Loading"),
        ("WAS_GRANTED_MEDIA_ACCESS", "WasGrantedMediaAccess"),
        ("DISABLE_FOR_RENDER_FRAME_HOST_CALLED", "DisableForRenderFrameHostCalled"),
        ("DOMAIN_NOT_ALLOWED", "DomainNotAllowed"), ("HTTP_METHOD_NOT_GET", "HTTPMethodNotGET"),
        ("SUBFRAME_IS_NAVIGATING", "SubframeIsNavigating"), ("TIMEOUT", "Timeout"),
        ("CACHE_LIMIT", "CacheLimit"), ("JAVA_SCRIPT_EXECUTION", "JavaScriptExecution"),
        ("RENDERER_PROCESS_KILLED", "RendererProcessKilled"),
        ("RENDERER_PROCESS_CRASHED", "RendererProcessCrashed"),
        ("GRANTED_MEDIA_STREAM_ACCESS", "GrantedMediaStreamAccess"),
        ("SCHEDULER_TRACKED_FEATURE_USED", "SchedulerTrackedFeatureUsed"),
        ("CONFLICTING_BROWSING_INSTANCE", "ConflictingBrowsingInstance"),
        ("CACHE_FLUSHED", "CacheFlushed"),
        ("SERVICE_WORKER_VERSION_ACTIVATION", "ServiceWorkerVersionActivation"),
        ("SESSION_RESTORED", "SessionRestored"),
        ("SERVICE_WORKER_POST_MESSAGE", "ServiceWorkerPostMessage"),
        ("ENTERED_BACK_FORWARD_CACHE_BEFORE_SERVICE_WORKER_HOST_ADDED",
          "EnteredBackForwardCacheBeforeServiceWorkerHostAdded"),
        ("RENDER_FRAME_HOST_REUSED_SAME_SITE", "RenderFrameHostReused_SameSite"),
        ("RENDER_FRAME_HOST_REUSED_CROSS_SITE", "RenderFrameHostReused_CrossSite"),
        ("SERVICE_WORKER_CLAIM", "ServiceWorkerClaim"),
        ("IGNORE_EVENT_AND_EVICT", "IgnoreEventAndEvict"),
        ("HAVE_INNER_CONTENTS", "HaveInnerContents"),
        ("TIMEOUT_PUTTING_IN_CACHE", "TimeoutPuttingInCache"),
        ("BACK_FORWARD_CACHE_DISABLED_BY_LOW_MEMORY", "BackForwardCacheDisabledByLowMemory"),
        ("BACK_FORWARD_CACHE_DISABLED_BY_COMMAND_LINE", "BackForwardCacheDisabledByCommandLine"),
        ("NETWORK_REQUEST_DATAPIPE_DRAINED_AS_BYTES_CONSUMER",
          "NetworkRequestDatapipeDrainedAsBytesConsumer"),
        ("NETWORK_REQUEST_REDIRECTED", "NetworkRequestRedirected"),
        ("NETWORK_REQUEST_TIMEOUT", "NetworkRequestTimeout"),
        ("NETWORK_EXCEEDS_BUFFER_LIMIT", "NetworkExceedsBufferLimit"),
        ("NAVIGATION_CANCELLED_WHILE_RESTORING", "NavigationCancelledWhileRestoring"),
        ("NOT_MOST_RECENT_NAVIGATION_ENTRY", "NotMostRecentNavigationEntry"),
        ("BACK_FORWARD_CACHE_DISABLED_FOR_PRERENDER", "BackForwardCacheDisabledForPrerender"),
        ("USER_AGENT_OVERRIDE_DIFFERS", "UserAgentOverrideDiffers"),
        ("FOREGROUND_CACHE_LIMIT", "ForegroundCacheLimit"),
        ("BROWSING_INSTANCE_NOT_SWAPPED", "BrowsingInstanceNotSwapped"),
        ("BACK_FORWARD_CACHE_DISABLED_FOR_DELEGATE", "BackForwardCacheDisabledForDelegate"),
        ("OPT_IN_UNLOAD_HEADER_NOT_PRESENT", "OptInUnloadHeaderNotPresent"),
        ("UNLOAD_HANDLER_EXISTS_IN_MAIN_FRAME", "UnloadHandlerExistsInMainFrame"),
        ("UNLOAD_HANDLER_EXISTS_IN_SUB_FRAME", "UnloadHandlerExistsInSubFrame"),
        ("SERVICE_WORKER_UNREGISTRATION", "ServiceWorkerUnregistration"),
        ("CACHE_CONTROL_NO_STORE", "CacheControlNoStore"),
        ("CACHE_CONTROL_NO_STORE_COOKIE_MODIFIED", "CacheControlNoStoreCookieModified"),
        ("CACHE_CONTROL_NO_STORE_HTTP_ONLY_COOKIE_MODIFIED",
          "CacheControlNoStoreHTTPOnlyCookieModified"),
        ("NO_RESPONSE_HEAD", "NoResponseHead"), ("UNKNOWN", "Unknown"),
        ("ACTIVATION_NAVIGATIONS_DISALLOWED_FOR_BUG1234857",
          "ActivationNavigationsDisallowedForBug1234857"),
        ("WEB_SOCKET", "WebSocket"), ("WEB_TRANSPORT", "WebTransport"), ("WEB_RTC", "WebRTC"),
        ("MAIN_RESOURCE_HAS_CACHE_CONTROL_NO_STORE", "MainResourceHasCacheControlNoStore"),
        ("MAIN_RESOURCE_HAS_CACHE_CONTROL_NO_CACHE", "MainResourceHasCacheControlNoCache"),
        ("SUBRESOURCE_HAS_CACHE_CONTROL_NO_STORE", "SubresourceHasCacheControlNoStore"),
        ("SUBRESOURCE_HAS_CACHE_CONTROL_NO_CACHE", "SubresourceHasCacheControlNoCache"),
        ("CONTAINS_PLUGINS", "ContainsPlugins"), ("DOCUMENT_LOADED", "DocumentLoaded"),
        ("DEDICATED_WORKER_OR_WORKLET", "DedicatedWorkerOrWorklet"),
        ("OUTSTANDING_NETWORK_REQUEST_OTHERS", "OutstandingNetworkRequestOthers"),
        ("OUTSTANDING_INDEXED_DB_TRANSACTION", "OutstandingIndexedDBTransaction"),
        ("REQUESTED_NOTIFICATIONS_PERMISSION", "RequestedNotificationsPermission"),
        ("REQUESTED_MIDI_PERMISSION", "RequestedMIDIPermission"),
        ("REQUESTED_AUDIO_CAPTURE_PERMISSION", "RequestedAudioCapturePermission"),
        ("REQUESTED_VIDEO_CAPTURE_PERMISSION", "RequestedVideoCapturePermission"),
        ("REQUESTED_BACK_FORWARD_CACHE_BLOCKED_SENSORS",
          "RequestedBackForwardCacheBlockedSensors"),
        ("REQUESTED_BACKGROUND_WORK_PERMISSION", "RequestedBackgroundWorkPermission"),
        ("BROADCAST_CHANNEL", "BroadcastChannel"),
        ("INDEXED_DB_CONNECTION", "IndexedDBConnection"), ("WEB_XR", "WebXR"),
        ("SHARED_WORKER", "SharedWorker"), ("WEB_LOCKS", "WebLocks"), ("WEB_HID", "WebHID"),
        ("WEB_SHARE", "WebShare"),
        ("REQUESTED_STORAGE_ACCESS_GRANT", "RequestedStorageAccessGrant"), ("WEB_NFC", "WebNfc"),
        ("OUTSTANDING_NETWORK_REQUEST_FETCH", "OutstandingNetworkRequestFetch"),
        ("OUTSTANDING_NETWORK_REQUEST_XHR", "OutstandingNetworkRequestXHR"),
        ("APP_BANNER", "AppBanner"), ("PRINTING", "Printing"), ("WEB_DATABASE", "WebDatabase"),
        ("PICTURE_IN_PICTURE", "PictureInPicture"), ("PORTAL", "Portal"),
        ("SPEECH_RECOGNIZER", "SpeechRecognizer"), ("IDLE_MANAGER", "IdleManager"),
        ("PAYMENT_MANAGER", "PaymentManager"), ("SPEECH_SYNTHESIS", "SpeechSynthesis"),
        ("KEYBOARD_LOCK", "KeyboardLock"), ("WEB_OTP_SERVICE", "WebOTPService"),
        ("OUTSTANDING_NETWORK_REQUEST_DIRECT_SOCKET", "OutstandingNetworkRequestDirectSocket"),
        ("INJECTED_JAVASCRIPT", "InjectedJavascript"),
        ("INJECTED_STYLE_SHEET", "InjectedStyleSheet"), ("DUMMY", "Dummy"),
        ("CONTENT_SECURITY_HANDLER", "ContentSecurityHandler"),
        ("CONTENT_WEB_AUTHENTICATION_API", "ContentWebAuthenticationAPI"),
        ("CONTENT_FILE_CHOOSER", "ContentFileChooser"), ("CONTENT_SERIAL", "ContentSerial"),
        ("CONTENT_FILE_SYSTEM_ACCESS", "ContentFileSystemAccess"),
        ("CONTENT_MEDIA_DEVICES_DISPATCHER_HOST", "ContentMediaDevicesDispatcherHost"),
        ("CONTENT_WEB_BLUETOOTH", "ContentWebBluetooth"), ("CONTENT_WEB_USB", "ContentWebUSB"),
        ("CONTENT_MEDIA_SESSION", "ContentMediaSession"),
        ("CONTENT_MEDIA_SESSION_SERVICE", "ContentMediaSessionService"),
        ("CONTENT_SCREEN_READER", "ContentScreenReader"),
        ("EMBEDDER_POPUP_BLOCKER_TAB_HELPER", "EmbedderPopupBlockerTabHelper"),
        ("EMBEDDER_SAFE_BROWSING_TRIGGERED_POPUP_BLOCKER",
          "EmbedderSafeBrowsingTriggeredPopupBlocker"),
        ("EMBEDDER_SAFE_BROWSING_THREAT_DETAILS", "EmbedderSafeBrowsingThreatDetails"),
        ("EMBEDDER_APP_BANNER_MANAGER", "EmbedderAppBannerManager"),
        ("EMBEDDER_DOM_DISTILLER_VIEWER_SOURCE", "EmbedderDomDistillerViewerSource"),
        ("EMBEDDER_DOM_DISTILLER_SELF_DELETING_REQUEST_DELEGATE",
          "EmbedderDomDistillerSelfDeletingRequestDelegate"),
        ("EMBEDDER_OOM_INTERVENTION_TAB_HELPER", "EmbedderOomInterventionTabHelper"),
        ("EMBEDDER_OFFLINE_PAGE", "EmbedderOfflinePage"),
        ("EMBEDDER_CHROME_PASSWORD_MANAGER_CLIENT_BIND_CREDENTIAL_MANAGER",
          "EmbedderChromePasswordManagerClientBindCredentialManager"),
        ("EMBEDDER_PERMISSION_REQUEST_MANAGER", "EmbedderPermissionRequestManager"),
        ("EMBEDDER_MODAL_DIALOG", "EmbedderModalDialog"),
        ("EMBEDDER_EXTENSIONS", "EmbedderExtensions"),
        ("EMBEDDER_EXTENSION_MESSAGING", "EmbedderExtensionMessaging"),
        ("EMBEDDER_EXTENSION_MESSAGING_FOR_OPEN_PORT", "EmbedderExtensionMessagingForOpenPort"),
        ("EMBEDDER_EXTENSION_SENT_MESSAGE_TO_CACHED_FRAME",
          "EmbedderExtensionSentMessageToCachedFrame") ],
    .enumeration "BackForwardCacheNotRestoredReasonType"
      [ ("SUPPORT_PENDING", "SupportPending"), ("PAGE_SUPPORT_NEEDED", "PageSupportNeeded"),
        ("CIRCUMSTANTIAL", "Circumstantial") ],
    .record "BackForwardCacheNotRestoredExplanation"
      [ .required "type_" "type" (.one (.ref "page" "BackForwardCacheNotRestoredReasonType")),
        .required "reason" "reason" (.one (.ref "page" "BackForwardCacheNotRestoredReason")) ],
    .record "BackForwardCacheNotRestoredExplanationTree"
      [ .required "url" "url" (.one .text),
        .required "explanations" "explanations"
          (.many (.ref "page" "BackForwardCacheNotRestoredExplanation")),
        .required "children" "children"
          (.many (.ref "page" "BackForwardCacheNotRestoredExplanationTree")) ] ]

def commands : List Command :=
  [ { name := "add_script_to_evaluate_on_load",
      method := "Page.addScriptToEvaluateOnLoad", deprecated := true,
      parameters :=
        [ .required "script_source" "scriptSource" (.one .text) ],
      returns :=
        [ .required "identifier" (.one (.ref "page" "ScriptIdentifier")) ] },
    { name := "add_script_to_evaluate_on_new_document",
      method := "Page.addScriptToEvaluateOnNewDocument",
      parameters :=
        [ .required "source" "source" (.one .text),
          .optional "world_name" "worldName" (.one .text),
          .optional "include_command_line_api" "includeCommandLineAPI" (.one .boolean) ],
      returns :=
        [ .required "identifier" (.one (.ref "page" "ScriptIdentifier")) ] },
    { name := "bring_to_front", method := "Page.bringToFront",
      parameters := [],
      returns := [] },
    { name := "capture_screenshot", method := "Page.captureScreenshot",
      parameters :=
        [ .optional "format_" "format" (.one .text),
          .optional "quality" "quality" (.one .integer),
          .optional "clip" "clip" (.one (.ref "page" "Viewport")),
          .optional "from_surface" "fromSurface" (.one .boolean),
          .optional "capture_beyond_viewport" "captureBeyondViewport" (.one .boolean) ],
      returns :=
        [ .required "data" (.one .text) ] },
    { name := "capture_snapshot", method := "Page.captureSnapshot",
      parameters :=
        [ .optional "format_" "format" (.one .text) ],
      returns :=
        [ .required "data" (.one .text) ] },
    { name := "clear_device_metrics_override",
      method := "Page.clearDeviceMetricsOverride", deprecated := true,
      parameters := [],
      returns := [] },
    { name := "clear_device_orientation_override",
      method := "Page.clearDeviceOrientationOverride", deprecated := true,
      parameters := [],
      returns := [] },
    { name := "clear_geolocation_override",
      method := "Page.clearGeolocationOverride", deprecated := true,
      parameters := [],
      returns := [] },
    { name := "create_isolated_world", method := "Page.createIsolatedWorld",
      parameters :=
        [ .required "frame_id" "frameId" (.one (.ref "page" "FrameId")),
          .optional "world_name" "worldName" (.one .text),
          .optional "grant_univeral_access" "grantUniveralAccess" (.one .boolean) ],
      returns :=
        [ .required "executionContextId" (.one (.ref "runtime" "ExecutionContextId")) ] },
    { name := "delete_cookie", method := "Page.deleteCookie", deprecated := true,
      parameters :=
        [ .required "cookie_name" "cookieName" (.one .text),
          .required "url" "url" (.one .text) ],
      returns := [] },
    { name := "disable", method := "Page.disable",
      parameters := [],
      returns := [] },
    { name := "enable", method := "Page.enable",
      parameters := [],
      returns := [] },
    { name := "get_app_manifest", method := "Page.getAppManifest",
      parameters := [],
      returns :=
        [ .required "url" (.one .text),
          .required "errors" (.many (.ref "page" "AppManifestError")),
          .optional "data" (.one .text),
          .optional "parsed" (.one (.ref "page" "AppManifestParsedProperties")) ] },
    { name := "get_installability_errors", method := "Page.getInstallabilityErrors",
      parameters := [],
      returns :=
        [ .required "installabilityErrors" (.many (.ref "page" "InstallabilityError")) ] },
    { name := "get_manifest_icons", method := "Page.getManifestIcons",
      parameters := [],
      returns :=
        [ .optional "primaryIcon" (.one .text) ] },
    { name := "get_app_id", method := "Page.getAppId",
      parameters := [],
      returns :=
        [ .optional "appId" (.one .text),
          .optional "recommendedId" (.one .text) ] },
    { name := "get_cookies", method := "Page.getCookies", deprecated := true,
      parameters := [],
      returns :=
        [ .required "cookies" (.many (.ref "network" "Cookie")) ] },
    { name := "get_frame_tree", method := "Page.getFrameTree",
      parameters := [],
      returns :=
        [ .required "frameTree" (.one (.ref "page" "FrameTree")) ] },
    { name := "get_layout_metrics", method := "Page.getLayoutMetrics",
      parameters := [],
      returns :=
        [ .required "layoutViewport" (.one (.ref "page" "LayoutViewport")),
          .required "visualViewport" (.one (.ref "page" "VisualViewport")),
          .required "contentSize" (.one (.ref "dom" "Rect")),
          .required "cssLayoutViewport" (.one (.ref "page" "LayoutViewport")),
          .required "cssVisualViewport" (.one (.ref "page" "VisualViewport")),
          .required "cssContentSize" (.one (.ref "dom" "Rect")) ] },
    { name := "get_navigation_history", method := "Page.getNavigationHistory",
      parameters := [],
      returns :=
        [ .required "currentIndex" (.one .integer),
          .required "entries" (.many (.ref "page" "NavigationEntry")) ] },
    { name := "reset_navigation_history", method := "Page.resetNavigationHistory",
      parameters := [],
      returns := [] },
    { name := "get_resource_content", method := "Page.getResourceContent",
      parameters :=
        [ .required "frame_id" "frameId" (.one (.ref "page" "FrameId")),
          .required "url" "url" (.one .text) ],
      returns :=
        [ .required "content" (.one .text),
          .required "base64Encoded" (.one .boolean) ] },
    { name := "get_resource_tree", method := "Page.getResourceTree",
      parameters := [],
      returns :=
        [ .required "frameTree" (.one (.ref "page" "FrameResourceTree")) ] },
    { name := "handle_java_script_dialog", method := "Page.handleJavaScriptDialog",
      parameters :=
        [ .required "accept" "accept" (.one .boolean),
          .optional "prompt_text" "promptText" (.one .text) ],
      returns := [] },
    { name := "navigate", method := "Page.navigate",
      parameters :=
        [ .required "url" "url" (.one .text),
          .optional "referrer" "referrer" (.one .text),
          .optional "transition_type" "transitionType" (.one (.ref "page" "TransitionType")),
          .optional "frame_id" "frameId" (.one (.ref "page" "FrameId")),
          .optional "referrer_policy" "referrerPolicy" (.one (.ref "page" "ReferrerPolicy")) ],
      returns :=
        [ .required "frameId" (.one (.ref "page" "FrameId")),
          .optional "loaderId" (.one (.ref "network" "LoaderId")),
          .optional "errorText" (.one .text) ] },
    { name := "navigate_to_history_entry", method := "Page.navigateToHistoryEntry",
      parameters :=
        [ .required "entry_id" "entryId" (.one .integer) ],
      returns := [] },
    { name := "print_to_pdf", method := "Page.printToPDF",
      parameters :=
        [ .optional "landscape" "landscape" (.one .boolean),
          .optional "display_header_footer" "displayHeaderFooter" (.one .boolean),
          .optional "print_background" "printBackground" (.one .boolean),
          .optional "scale" "scale" (.one .number),
          .optional "paper_width" "paperWidth" (.one .number),
          .optional "paper_height" "paperHeight" (.one .number),
          .optional "margin_top" "marginTop" (.one .number),
          .optional "margin_bottom" "marginBottom" (.one .number),
          .optional "margin_left" "marginLeft" (.one .number),
          .optional "margin_right" "marginRight" (.one .number),
          .optional "page_ranges" "pageRanges" (.one .text),
          .optional "ignore_invalid_page_ranges" "ignoreInvalidPageRanges" (.one .boolean),
          .optional "header_template" "headerTemplate" (.one .text),
          .optional "footer_template" "footerTemplate" (.one .text),
          .optional "prefer_css_page_size" "preferCSSPageSize" (.one .boolean),
          .optional "transfer_mode" "transferMode" (.one .text) ],
      returns :=
        [ .required "data" (.one .text),
          .optional "stream" (.one (.ref "io" "StreamHandle")) ] },
    { name := "reload", method := "Page.reload",
      parameters :=
        [ .optional "ignore_cache" "ignoreCache" (.one .boolean),
          .optional "script_to_evaluate_on_load" "scriptToEvaluateOnLoad" (.one .text) ],
      returns := [] },
    { name := "remove_script_to_evaluate_on_load",
      method := "Page.removeScriptToEvaluateOnLoad", deprecated := true,
      parameters :=
        [ .required "identifier" "identifier" (.one (.ref "page" "ScriptIdentifier")) ],
      returns := [] },
    { name := "remove_script_to_evaluate_on_new_document",
      method := "Page.removeScriptToEvaluateOnNewDocument",
      parameters :=
        [ .required "identifier" "identifier" (.one (.ref "page" "ScriptIdentifier")) ],
      returns := [] },
    { name := "screencast_frame_ack", method := "Page.screencastFrameAck",
      parameters :=
        [ .required "session_id" "sessionId" (.one .integer) ],
      returns := [] },
    { name := "search_in_resource", method := "Page.searchInResource",
      parameters :=
        [ .required "frame_id" "frameId" (.one (.ref "page" "FrameId")),
          .required "url" "url" (.one .text),
          .required "query" "query" (.one .text),
          .optional "case_sensitive" "caseSensitive" (.one .boolean),
          .optional "is_regex" "isRegex" (.one .boolean) ],
      returns :=
        [ .required "result" (.many (.ref "debugger" "SearchMatch")) ] },
    { name := "set_ad_blocking_enabled", method := "Page.setAdBlockingEnabled",
      parameters :=
        [ .required "enabled" "enabled" (.one .boolean) ],
      returns := [] },
    { name := "set_bypass_csp", method := "Page.setBypassCSP",
      parameters :=
        [ .required "enabled" "enabled" (.one .boolean) ],
      returns := [] },
    { name := "get_permissions_policy_state", method := "Page.getPermissionsPolicyState",
      parameters :=
        [ .required "frame_id" "frameId" (.one (.ref "page" "FrameId")) ],
      returns :=
        [ .required "states" (.many (.ref "page" "PermissionsPolicyFeatureState")) ] },
    { name := "get_origin_trials", method := "Page.getOriginTrials",
      parameters :=
        [ .required "frame_id" "frameId" (.one (.ref "page" "FrameId")) ],
      returns :=
        [ .required "originTrials" (.many (.ref "page" "OriginTrial")) ] },
    { name := "set_device_metrics_override",
      method := "Page.setDeviceMetricsOverride", deprecated := true,
      parameters :=
        [ .required "width" "width" (.one .integer),
          .required "height" "height" (.one .integer),
          .required "device_scale_factor" "deviceScaleFactor" (.one .number),
          .required "mobile" "mobile" (.one .boolean),
          .optional "scale" "scale" (.one .number),
          .optional "screen_width" "screenWidth" (.one .integer),
          .optional "screen_height" "screenHeight" (.one .integer),
          .optional "position_x" "positionX" (.one .integer),
          .optional "position_y" "positionY" (.one .integer),
          .optional "dont_set_visible_size" "dontSetVisibleSize" (.one .boolean),
          .optional "screen_orientation" "screenOrientation"
            (.one (.ref "emulation" "ScreenOrientation")),
          .optional "viewport" "viewport" (.one (.ref "page" "Viewport")) ],
      returns := [] },
    { name := "set_device_orientation_override",
      method := "Page.setDeviceOrientationOverride", deprecated := true,
      parameters :=
        [ .required "alpha" "alpha" (.one .number),
          .required "beta" "beta" (.one .number),
          .required "gamma" "gamma" (.one .number) ],
      returns := [] },
    { name := "set_font_families", method := "Page.setFontFamilies",
      parameters :=
        [ .required "font_families" "fontFamilies" (.one (.ref "page" "FontFamilies")) ],
      returns := [] },
    { name := "set_font_sizes", method := "Page.setFontSizes",
      parameters :=
        [ .required "font_sizes" "fontSizes" (.one (.ref "page" "FontSizes")) ],
      returns := [] },
    { name := "set_document_content", method := "Page.setDocumentContent",
      parameters :=
        [ .required "frame_id" "frameId" (.one (.ref "page" "FrameId")),
          .required "html" "html" (.one .text) ],
      returns := [] },
    { name := "set_download_behavior",
      method := "Page.setDownloadBehavior", deprecated := true,
      parameters :=
        [ .required "behavior" "behavior" (.one .text),
          .optional "download_path" "downloadPath" (.one .text) ],
      returns := [] },
    { name := "set_geolocation_override",
      method := "Page.setGeolocationOverride", deprecated := true,
      parameters :=
        [ .optional "latitude" "latitude" (.one .number),
          .optional "longitude" "longitude" (.one .number),
          .optional "accuracy" "accuracy" (.one .number) ],
      returns := [] },
    { name := "set_lifecycle_events_enabled", method := "Page.setLifecycleEventsEnabled",
      parameters :=
        [ .required "enabled" "enabled" (.one .boolean) ],
      returns := [] },
    { name := "set_touch_emulation_enabled",
      method := "Page.setTouchEmulationEnabled", deprecated := true,
      parameters :=
        [ .required "enabled" "enabled" (.one .boolean),
          .optional "configuration" "configuration" (.one .text) ],
      returns := [] },
    { name := "start_screencast", method := "Page.startScreencast",
      parameters :=
        [ .optional "format_" "format" (.one .text),
          .optional "quality" "quality" (.one .integer),
          .optional "max_width" "maxWidth" (.one .integer),
          .optional "max_height" "maxHeight" (.one .integer),
          .optional "every_nth_frame" "everyNthFrame" (.one .integer) ],
      returns := [] },
    { name := "stop_loading", method := "Page.stopLoading",
      parameters := [],
      returns := [] },
    { name := "crash", method := "Page.crash",
      parameters := [],
      returns := [] },
    { name := "close", method := "Page.close",
      parameters := [],
      returns := [] },
    { name := "set_web_lifecycle_state", method := "Page.setWebLifecycleState",
      parameters :=
        [ .required "state" "state" (.one .text) ],
      returns := [] },
    { name := "stop_screencast", method := "Page.stopScreencast",
      parameters := [],
      returns := [] },
    { name := "produce_compilation_cache", method := "Page.produceCompilationCache",
      parameters :=
        [ .required "scripts" "scripts" (.many (.ref "page" "CompilationCacheParams")) ],
      returns := [] },
    { name := "add_compilation_cache", method := "Page.addCompilationCache",
      parameters :=
        [ .required "url" "url" (.one .text),
          .required "data" "data" (.one .text) ],
      returns := [] },
    { name := "clear_compilation_cache", method := "Page.clearCompilationCache",
      parameters := [],
      returns := [] },
    { name := "set_spc_transaction_mode", method := "Page.setSPCTransactionMode",
      parameters :=
        [ .required "mode" "mode" (.one .text) ],
      returns := [] },
    { name := "generate_test_report", method := "Page.generateTestReport",
      parameters :=
        [ .required "message" "message" (.one .text),
          .optional "group" "group" (.one .text) ],
      returns := [] },
    { name := "wait_for_debugger", method := "Page.waitForDebugger",
      parameters := [],
      returns := [] },
    { name := "set_intercept_file_chooser_dialog",
      method := "Page.setInterceptFileChooserDialog",
      parameters :=
        [ .required "enabled" "enabled" (.one .boolean) ],
      returns := [] } ]

def events : List Event :=
  [ { name := "DomContentEventFired", method := "Page.domContentEventFired",
      fields :=
        [ .required "timestamp" "timestamp" (.one (.ref "network" "MonotonicTime")) ] },
    { name := "FileChooserOpened", method := "Page.fileChooserOpened",
      fields :=
        [ .required "frame_id" "frameId" (.one (.ref "page" "FrameId")),
          .required "backend_node_id" "backendNodeId" (.one (.ref "dom" "BackendNodeId")),
          .required "mode" "mode" (.one .text) ] },
    { name := "FrameAttached", method := "Page.frameAttached",
      fields :=
        [ .required "frame_id" "frameId" (.one (.ref "page" "FrameId")),
          .required "parent_frame_id" "parentFrameId" (.one (.ref "page" "FrameId")),
          .optional "stack" "stack" (.one (.ref "runtime" "StackTrace")) ] },
    { name := "FrameClearedScheduledNavigation",
      method := "Page.frameClearedScheduledNavigation", deprecated := true,
      fields :=
        [ .required "frame_id" "frameId" (.one (.ref "page" "FrameId")) ] },
    { name := "FrameDetached", method := "Page.frameDetached",
      fields :=
        [ .required "frame_id" "frameId" (.one (.ref "page" "FrameId")),
          .required "reason" "reason" (.one .text) ] },
    { name := "FrameNavigated", method := "Page.frameNavigated",
      fields :=
        [ .required "frame" "frame" (.one (.ref "page" "Frame")),
          .required "type_" "type" (.one (.ref "page" "NavigationType")) ] },
    { name := "DocumentOpened", method := "Page.documentOpened",
      fields :=
        [ .required "frame" "frame" (.one (.ref "page" "Frame")) ] },
    { name := "FrameResized", method := "Page.frameResized",
      fields := [] },
    { name := "FrameRequestedNavigation", method := "Page.frameRequestedNavigation",
      fields :=
        [ .required "frame_id" "frameId" (.one (.ref "page" "FrameId")),
          .required "reason" "reason" (.one (.ref "page" "ClientNavigationReason")),
          .required "url" "url" (.one .text),
          .required "disposition" "disposition"
            (.one (.ref "page" "ClientNavigationDisposition")) ] },
    { name := "FrameScheduledNavigation",
      method := "Page.frameScheduledNavigation", deprecated := true,
      fields :=
        [ .required "frame_id" "frameId" (.one (.ref "page" "FrameId")),
          .required "delay" "delay" (.one .number),
          .required "reason" "reason" (.one (.ref "page" "ClientNavigationReason")),
          .required "url" "url" (.one .text) ] },
    { name := "FrameStartedLoading", method := "Page.frameStartedLoading",
      fields :=
        [ .required "frame_id" "frameId" (.one (.ref "page" "FrameId")) ] },
    { name := "FrameStoppedLoading", method := "Page.frameStoppedLoading",
      fields :=
        [ .required "frame_id" "frameId" (.one (.ref "page" "FrameId")) ] },
    { name := "DownloadWillBegin", method := "Page.downloadWillBegin", deprecated := true,
      fields :=
        [ .required "frame_id" "frameId" (.one (.ref "page" "FrameId")),
          .required "guid" "guid" (.one .text),
          .required "url" "url" (.one .text),
          .required "suggested_filename" "suggestedFilename" (.one .text) ] },
    { name := "DownloadProgress", method := "Page.downloadProgress", deprecated := true,
      fields :=
        [ .required "guid" "guid" (.one .text),
          .required "total_bytes" "totalBytes" (.one .number),
          .required "received_bytes" "receivedBytes" (.one .number),
          .required "state" "state" (.one .text) ] },
    { name := "InterstitialHidden", method := "Page.interstitialHidden",
      fields := [] },
    { name := "InterstitialShown", method := "Page.interstitialShown",
      fields := [] },
    { name := "JavascriptDialogClosed", method := "Page.javascriptDialogClosed",
      fields :=
        [ .required "result" "result" (.one .boolean),
          .required "user_input" "userInput" (.one .text) ] },
    { name := "JavascriptDialogOpening", method := "Page.javascriptDialogOpening",
      fields :=
        [ .required "url" "url" (.one .text),
          .required "message" "message" (.one .text),
          .required "type_" "type" (.one (.ref "page" "DialogType")),
          .required "has_browser_handler" "hasBrowserHandler" (.one .boolean),
          .optional "default_prompt" "defaultPrompt" (.one .text) ] },
    { name := "LifecycleEvent", method := "Page.lifecycleEvent",
      fields :=
        [ .required "frame_id" "frameId" (.one (.ref "page" "FrameId")),
          .required "loader_id" "loaderId" (.one (.ref "network" "LoaderId")),
          .required "name" "name" (.one .text),
          .required "timestamp" "timestamp" (.one (.ref "network" "MonotonicTime")) ] },
    { name := "BackForwardCacheNotUsed", method := "Page.backForwardCacheNotUsed",
      fields :=
        [ .required "loader_id" "loaderId" (.one (.ref "network" "LoaderId")),
          .required "frame_id" "frameId" (.one (.ref "page" "FrameId")),
          .required "not_restored_explanations" "notRestoredExplanations"
            (.many (.ref "page" "BackForwardCacheNotRestoredExplanation")),
          .optional "not_restored_explanations_tree" "notRestoredExplanationsTree"
            (.one (.ref "page" "BackForwardCacheNotRestoredExplanationTree")) ] },
    { name := "LoadEventFired", method := "Page.loadEventFired",
      fields :=
        [ .required "timestamp" "timestamp" (.one (.ref "network" "MonotonicTime")) ] },
    { name := "NavigatedWithinDocument", method := "Page.navigatedWithinDocument",
      fields :=
        [ .required "frame_id" "frameId" (.one (.ref "page" "FrameId")),
          .required "url" "url" (.one .text) ] },
    { name := "ScreencastFrame", method := "Page.screencastFrame",
      fields :=
        [ .required "data" "data" (.one .text),
          .required "metadata" "metadata" (.one (.ref "page" "ScreencastFrameMetadata")),
          .required "session_id" "sessionId" (.one .integer) ] },
    { name := "ScreencastVisibilityChanged", method := "Page.screencastVisibilityChanged",
      fields :=
        [ .required "visible" "visible" (.one .boolean) ] },
    { name := "WindowOpen", method := "Page.windowOpen",
      fields :=
        [ .required "url" "url" (.one .text),
          .required "window_name" "windowName" (.one .text),
          .required "window_features" "windowFeatures" (.many .text),
          .required "user_gesture" "userGesture" (.one .boolean) ] },
    { name := "CompilationCacheProduced", method := "Page.compilationCacheProduced",
      fields :=
        [ .required "url" "url" (.one .text),
          .required "data" "data" (.one .text) ] } ]

def domain : DevTools.Domain where
  name := "Page"
  scope := "page"
  types := types
  commands := commands
  events := events

end DevTools.Domain.Page
