import DevTools.Schema

namespace DevTools.Domain.Audits

def types : List Declaration :=
  [ .record "AffectedCookie"
      [ .required "name" "name" (.one .text),
        .required "path" "path" (.one .text),
        .required "domain" "domain" (.one .text) ],
    .record "AffectedRequest"
      [ .required "request_id" "requestId" (.one (.ref "network" "RequestId")),
        .optional "url" "url" (.one .text) ],
    .record "AffectedFrame"
      [ .required "frame_id" "frameId" (.one (.ref "page" "FrameId")) ],
    .enumeration "SameSiteCookieExclusionReason"
      [ ("EXCLUDE_SAME_SITE_UNSPECIFIED_TREATED_AS_LAX",
          "ExcludeSameSiteUnspecifiedTreatedAsLax"),
        ("EXCLUDE_SAME_SITE_NONE_INSECURE", "ExcludeSameSiteNoneInsecure"),
        ("EXCLUDE_SAME_SITE_LAX", "ExcludeSameSiteLax"),
        ("EXCLUDE_SAME_SITE_STRICT", "ExcludeSameSiteStrict"),
        ("EXCLUDE_INVALID_SAME_PARTY", "ExcludeInvalidSameParty"),
        ("EXCLUDE_SAME_PARTY_CROSS_PARTY_CONTEXT", "ExcludeSamePartyCrossPartyContext") ],
    .enumeration "SameSiteCookieWarningReason"
      [ ("WARN_SAME_SITE_UNSPECIFIED_CROSS_SITE_CONTEXT",
          "WarnSameSiteUnspecifiedCrossSiteContext"),
        ("WARN_SAME_SITE_NONE_INSECURE", "WarnSameSiteNoneInsecure"),
        ("WARN_SAME_SITE_UNSPECIFIED_LAX_ALLOW_UNSAFE", "WarnSameSiteUnspecifiedLaxAllowUnsafe"),
        ("WARN_SAME_SITE_STRICT_LAX_DOWNGRADE_STRICT", "WarnSameSiteStrictLaxDowngradeStrict"),
        ("WARN_SAME_SITE_STRICT_CROSS_DOWNGRADE_STRICT",
          "WarnSameSiteStrictCrossDowngradeStrict"),
        ("WARN_SAME_SITE_STRICT_CROSS_DOWNGRADE_LAX", "WarnSameSiteStrictCrossDowngradeLax"),
        ("WARN_SAME_SITE_LAX_CROSS_DOWNGRADE_STRICT", "WarnSameSiteLaxCrossDowngradeStrict"),
        ("WARN_SAME_SITE_LAX_CROSS_DOWNGRADE_LAX", "WarnSameSiteLaxCrossDowngradeLax") ],
    .enumeration "SameSiteCookieOperation"
      [ ("SET_COOKIE", "SetCookie"), ("READ_COOKIE", "ReadCookie") ],
    .record "SameSiteCookieIssueDetails"
      [ .required "cookie_warning_reasons" "cookieWarningReasons"
          (.many (.ref "audits" "SameSiteCookieWarningReason")),
        .required "cookie_exclusion_reasons" "cookieExclusionReasons"
          (.many (.ref "audits" "SameSiteCookieExclusionReason")),
        .required "operation" "operation" (.one (.ref "audits" "SameSiteCookieOperation")),
        .optional "cookie" "cookie" (.one (.ref "audits" "AffectedCookie")),
        .optional "raw_cookie_line" "rawCookieLine" (.one .text),
        .optional "site_for_cookies" "siteForCookies" (.one .text),
        .optional "cookie_url" "cookieUrl" (.one .text),
        .optional "request" "request" (.one (.ref "audits" "AffectedRequest")) ],
    .enumeration "MixedContentResolutionStatus"
      [ ("MIXED_CONTENT_BLOCKED", "MixedContentBlocked"),
        ("MIXED_CONTENT_AUTOMATICALLY_UPGRADED", "MixedContentAutomaticallyUpgraded"),
        ("MIXED_CONTENT_WARNING", "MixedContentWarning") ],
    .enumeration "MixedContentResourceType"
      [ ("AUDIO", "Audio"), ("BEACON", "Beacon"), ("CSP_REPORT", "CSPReport"),
        ("DOWNLOAD", "Download"), ("EVENT_SOURCE", "EventSource"), ("FAVICON", "Favicon"),
        ("FONT", "Font"), ("FORM", "Form"), ("FRAME", "Frame"), ("IMAGE", "Image"),
        ("IMPORT", "Import"), ("MANIFEST", "Manifest"), ("PING", "Ping"),
        ("PLUGIN_DATA", "PluginData"), ("PLUGIN_RESOURCE", "PluginResource"),
        ("PREFETCH", "Prefetch"), ("RESOURCE", "Resource"), ("SCRIPT", "Script"),
        ("SERVICE_WORKER", "ServiceWorker"), ("SHARED_WORKER", "SharedWorker"),
        ("STYLESHEET", "Stylesheet"), ("TRACK", "Track"), ("VIDEO", "Video"),
        ("WORKER", "Worker"), ("XML_HTTP_REQUEST", "XMLHttpRequest"), ("XSLT", "XSLT") ],
    .record "MixedContentIssueDetails"
      [ .required "resolution_status" "resolutionStatus"
          (.one (.ref "audits" "MixedContentResolutionStatus")),
        .required "insecure_url" "insecureURL" (.one .text),
        .required "main_resource_url" "mainResourceURL" (.one .text),
        .optional "resource_type" "resourceType"
          (.one (.ref "audits" "MixedContentResourceType")),
        .optional "request" "request" (.one (.ref "audits" "AffectedRequest")),
        .optional "frame" "frame" (.one (.ref "audits" "AffectedFrame")) ],
    .enumeration "BlockedByResponseReason"
      [ ("COEP_FRAME_RESOURCE_NEEDS_COEP_HEADER", "CoepFrameResourceNeedsCoepHeader"),
        ("COOP_SANDBOXED_I_FRAME_CANNOT_NAVIGATE_TO_COOP_PAGE",
          "CoopSandboxedIFrameCannotNavigateToCoopPage"),
        ("CORP_NOT_SAME_ORIGIN", "CorpNotSameOrigin"),
        ("CORP_NOT_SAME_ORIGIN_AFTER_DEFAULTED_TO_SAME_ORIGIN_BY_COEP",
          "CorpNotSameOriginAfterDefaultedToSameOriginByCoep"),
        ("CORP_NOT_SAME_SITE", "CorpNotSameSite") ],
    .record "BlockedByResponseIssueDetails"
      [ .required "request" "request" (.one (.ref "audits" "AffectedRequest")),
        .required "reason" "reason" (.one (.ref "audits" "BlockedByResponseReason")),
        .optional "parent_frame" "parentFrame" (.one (.ref "audits" "AffectedFrame")),
        .optional "blocked_frame" "blockedFrame" (.one (.ref "audits" "AffectedFrame")) ],
    .enumeration "HeavyAdResolutionStatus"
      [ ("HEAVY_AD_BLOCKED", "HeavyAdBlocked"), ("HEAVY_AD_WARNING", "HeavyAdWarning") ],
    .enumeration "HeavyAdReason"
      [ ("NETWORK_TOTAL_LIMIT", "NetworkTotalLimit"), ("CPU_TOTAL_LIMIT", "CpuTotalLimit"),
        ("CPU_PEAK_LIMIT", "CpuPeakLimit") ],
    .record "HeavyAdIssueDetails"
      [ .required "resolution" "resolution" (.one (.ref "audits" "HeavyAdResolutionStatus")),
        .required "reason" "reason" (.one (.ref "audits" "HeavyAdReason")),
        .required "frame" "frame" (.one (.ref "audits" "AffectedFrame")) ],
    .enumeration "ContentSecurityPolicyViolationType"
      [ ("K_INLINE_VIOLATION", "kInlineViolation"), ("K_EVAL_VIOLATION", "kEvalViolation"),
        ("K_URL_VIOLATION", "kURLViolation"),
        ("K_TRUSTED_TYPES_SINK_VIOLATION", "kTrustedTypesSinkViolation"),
        ("K_TRUSTED_TYPES_POLICY_VIOLATION", "kTrustedTypesPolicyViolation"),
        ("K_WASM_EVAL_VIOLATION", "kWasmEvalViolation") ],
    .record "SourceCodeLocation"
      [ .required "url" "url" (.one .text),
        .required "line_number" "lineNumber" (.one .integer),
        .required "column_number" "columnNumber" (.one .integer),
        .optional "script_id" "scriptId" (.one (.ref "runtime" "ScriptId")) ],
    .record "ContentSecurityPolicyIssueDetails"
      [ .required "violated_directive" "violatedDirective" (.one .text),
        .required "is_report_only" "isReportOnly" (.one .boolean),
        .required "content_security_policy_violation_type" "contentSecurityPolicyViolationType"
          (.one (.ref "audits" "ContentSecurityPolicyViolationType")),
        .optional "blocked_url" "blockedURL" (.one .text),
        .optional "frame_ancestor" "frameAncestor" (.one (.ref "audits" "AffectedFrame")),
        .optional "source_code_location" "sourceCodeLocation"
          (.one (.ref "audits" "SourceCodeLocation")),
        .optional "violating_node_id" "violatingNodeId" (.one (.ref "dom" "BackendNodeId")) ],
    .enumeration "SharedArrayBufferIssueType"
      [ ("TRANSFER_ISSUE", "TransferIssue"), ("CREATION_ISSUE", "CreationIssue") ],
    .record "SharedArrayBufferIssueDetails"
      [ .required "source_code_location" "sourceCodeLocation"
          (.one (.ref "audits" "SourceCodeLocation")),
        .required "is_warning" "isWarning" (.one .boolean),
        .required "type_" "type" (.one (.ref "audits" "SharedArrayBufferIssueType")) ],
    .enumeration "TwaQualityEnforcementViolationType"
      [ ("K_HTTP_ERROR", "kHttpError"), ("K_UNAVAILABLE_OFFLINE", "kUnavailableOffline"),
        ("K_DIGITAL_ASSET_LINKS", "kDigitalAssetLinks") ],
    .record "TrustedWebActivityIssueDetails"
      [ .required "url" "url" (.one .text),
        .required "violation_type" "violationType"
          (.one (.ref "audits" "TwaQualityEnforcementViolationType")),
        .optional "http_status_code" "httpStatusCode" (.one .integer),
        .optional "package_name" "packageName" (.one .text),
        .optional "signature" "signature" (.one .text) ],
    .record "LowTextContrastIssueDetails"
      [ .required "violating_node_id" "violatingNodeId" (.one (.ref "dom" "BackendNodeId")),
        .required "violating_node_selector" "violatingNodeSelector" (.one .text),
        .required "contrast_ratio" "contrastRatio" (.one .number),
        .required "threshold_aa" "thresholdAA" (.one .number),
        .required "threshold_aaa" "thresholdAAA" (.one .number),
        .required "font_size" "fontSize" (.one .text),
        .required "font_weight" "fontWeight" (.one .text) ],
    .record "CorsIssueDetails"
      [ .required "cors_error_status" "corsErrorStatus"
          (.one (.ref "network" "CorsErrorStatus")),
        .required "is_warning" "isWarning" (.one .boolean),
        .required "request" "request" (.one (.ref "audits" "AffectedRequest")),
        .optional "location" "location" (.one (.ref "audits" "SourceCodeLocation")),
        .optional "initiator_origin" "initiatorOrigin" (.one .text),
        .optional "resource_ip_address_space" "resourceIPAddressSpace"
          (.one (.ref "network" "IPAddressSpace")),
        .optional "client_security_state" "clientSecurityState"
          (.one (.ref "network" "ClientSecurityState")) ],
    .enumeration "AttributionReportingIssueType"
      [ ("PERMISSION_POLICY_DISABLED", "PermissionPolicyDisabled"),
        ("INVALID_ATTRIBUTION_SOURCE_EVENT_ID", "InvalidAttributionSourceEventId"),
        ("INVALID_ATTRIBUTION_DATA", "InvalidAttributionData"),
        ("ATTRIBUTION_SOURCE_UNTRUSTWORTHY_ORIGIN", "AttributionSourceUntrustworthyOrigin"),
        ("ATTRIBUTION_UNTRUSTWORTHY_ORIGIN", "AttributionUntrustworthyOrigin"),
        ("ATTRIBUTION_TRIGGER_DATA_TOO_LARGE", "AttributionTriggerDataTooLarge"),
        ("ATTRIBUTION_EVENT_SOURCE_TRIGGER_DATA_TOO_LARGE",
          "AttributionEventSourceTriggerDataTooLarge"),
        ("INVALID_ATTRIBUTION_SOURCE_EXPIRY", "InvalidAttributionSourceExpiry"),
        ("INVALID_ATTRIBUTION_SOURCE_PRIORITY", "InvalidAttributionSourcePriority"),
        ("INVALID_EVENT_SOURCE_TRIGGER_DATA", "InvalidEventSourceTriggerData"),
        ("INVALID_TRIGGER_PRIORITY", "InvalidTriggerPriority"),
        ("INVALID_TRIGGER_DEDUP_KEY", "InvalidTriggerDedupKey") ],
    .record "AttributionReportingIssueDetails"
      [ .required "violation_type" "violationType"
          (.one (.ref "audits" "AttributionReportingIssueType")),
        .optional "frame" "frame" (.one (.ref "audits" "AffectedFrame")),
        .optional "request" "request" (.one (.ref "audits" "AffectedRequest")),
        .optional "violating_node_id" "violatingNodeId" (.one (.ref "dom" "BackendNodeId")),
        .optional "invalid_parameter" "invalidParameter" (.one .text) ],
    .record "QuirksModeIssueDetails"
      [ .required "is_limited_quirks_mode" "isLimitedQuirksMode" (.one .boolean),
        .required "document_node_id" "documentNodeId" (.one (.ref "dom" "BackendNodeId")),
        .required "url" "url" (.one .text),
        .required "frame_id" "frameId" (.one (.ref "page" "FrameId")),
        .required "loader_id" "loaderId" (.one (.ref "network" "LoaderId")) ],
    .record "NavigatorUserAgentIssueDetails"
      [ .required "url" "url" (.one .text),
        .optional "location" "location" (.one (.ref "audits" "SourceCodeLocation")) ],
    .record "WasmCrossOriginModuleSharingIssueDetails"
      [ .required "wasm_module_url" "wasmModuleUrl" (.one .text),
        .required "source_origin" "sourceOrigin" (.one .text),
        .required "target_origin" "targetOrigin" (.one .text),
        .required "is_warning" "isWarning" (.one .boolean) ],
    .enumeration "GenericIssueErrorType"
      [ ("CROSS_ORIGIN_PORTAL_POST_MESSAGE_ERROR", "CrossOriginPortalPostMessageError") ],
    .record "GenericIssueDetails"
      [ .required "error_type" "errorType" (.one (.ref "audits" "GenericIssueErrorType")),
        .optional "frame_id" "frameId" (.one (.ref "page" "FrameId")) ],
    .record "DeprecationIssueDetails"
      [ .required "source_code_location" "sourceCodeLocation"
          (.one (.ref "audits" "SourceCodeLocation")),
        .optional "affected_frame" "affectedFrame" (.one (.ref "audits" "AffectedFrame")),
        .optional "message" "message" (.one .text) ],
    .enumeration "ClientHintIssueReason"
      [ ("META_TAG_ALLOW_LIST_INVALID_ORIGIN", "MetaTagAllowListInvalidOrigin"),
        ("META_TAG_MODIFIED_HTML", "MetaTagModifiedHTML") ],
    .record "ClientHintIssueDetails"
      [ .required "source_code_location" "sourceCodeLocation"
          (.one (.ref "audits" "SourceCodeLocation")),
        .required "client_hint_issue_reason" "clientHintIssueReason"
          (.one (.ref "audits" "ClientHintIssueReason")) ],
    .enumeration "InspectorIssueCode"
      [ ("SAME_SITE_COOKIE_ISSUE", "SameSiteCookieIssue"),
        ("MIXED_CONTENT_ISSUE", "MixedContentIssue"),
        ("BLOCKED_BY_RESPONSE_ISSUE", "BlockedByResponseIssue"),
        ("HEAVY_AD_ISSUE", "HeavyAdIssue"),
        ("CONTENT_SECURITY_POLICY_ISSUE", "ContentSecurityPolicyIssue"),
        ("SHARED_ARRAY_BUFFER_ISSUE", "SharedArrayBufferIssue"),
        ("TRUSTED_WEB_ACTIVITY_ISSUE", "TrustedWebActivityIssue"),
        ("LOW_TEXT_CONTRAST_ISSUE", "LowTextContrastIssue"), ("CORS_ISSUE", "CorsIssue"),
        ("ATTRIBUTION_REPORTING_ISSUE", "AttributionReportingIssue"),
        ("QUIRKS_MODE_ISSUE", "QuirksModeIssue"),
        ("NAVIGATOR_USER_AGENT_ISSUE", "NavigatorUserAgentIssue"),
        ("WASM_CROSS_ORIGIN_MODULE_SHARING_ISSUE", "WasmCrossOriginModuleSharingIssue"),
        ("GENERIC_ISSUE", "GenericIssue"), ("DEPRECATION_ISSUE", "DeprecationIssue"),
        ("CLIENT_HINT_ISSUE", "ClientHintIssue") ],
    .record "InspectorIssueDetails"
      [ .optional "same_site_cookie_issue_details" "sameSiteCookieIssueDetails"
          (.one (.ref "audits" "SameSiteCookieIssueDetails")),
        .optional "mixed_content_issue_details" "mixedContentIssueDetails"
          (.one (.ref "audits" "MixedContentIssueDetails")),
        .optional "blocked_by_response_issue_details" "blockedByResponseIssueDetails"
          (.one (.ref "audits" "BlockedByResponseIssueDetails")),
        .optional "heavy_ad_issue_details" "heavyAdIssueDetails"
          (.one (.ref "audits" "HeavyAdIssueDetails")),
        .optional "content_security_policy_issue_details" "contentSecurityPolicyIssueDetails"
          (.one (.ref "audits" "ContentSecurityPolicyIssueDetails")),
        .optional "shared_array_buffer_issue_details" "sharedArrayBufferIssueDetails"
          (.one (.ref "audits" "SharedArrayBufferIssueDetails")),
        .optional "twa_quality_enforcement_details" "twaQualityEnforcementDetails"
          (.one (.ref "audits" "TrustedWebActivityIssueDetails")),
        .optional "low_text_contrast_issue_details" "lowTextContrastIssueDetails"
          (.one (.ref "audits" "LowTextContrastIssueDetails")),
        .optional "cors_issue_details" "corsIssueDetails"
          (.one (.ref "audits" "CorsIssueDetails")),
        .optional "attribution_reporting_issue_details" "attributionReportingIssueDetails"
          (.one (.ref "audits" "AttributionReportingIssueDetails")),
        .optional "quirks_mode_issue_details" "quirksModeIssueDetails"
          (.one (.ref "audits" "QuirksModeIssueDetails")),
        .optional "navigator_user_agent_issue_details" "navigatorUserAgentIssueDetails"
          (.one (.ref "audits" "NavigatorUserAgentIssueDetails")),
        .optional "wasm_cross_origin_module_sharing_issue" "wasmCrossOriginModuleSharingIssue"
          (.one (.ref "audits" "WasmCrossOriginModuleSharingIssueDetails")),
        .optional "generic_issue_details" "genericIssueDetails"
          (.one (.ref "audits" "GenericIssueDetails")),
        .optional "deprecation_issue_details" "deprecationIssueDetails"
          (.one (.ref "audits" "DeprecationIssueDetails")),
        .optional "client_hint_issue_details" "clientHintIssueDetails"
          (.one (.ref "audits" "ClientHintIssueDetails")) ],
    .wrapper "IssueId" .text,
    .record "InspectorIssue"
      [ .required "code" "code" (.one (.ref "audits" "InspectorIssueCode")),
        .required "details" "details" (.one (.ref "audits" "InspectorIssueDetails")),
        .optional "issue_id" "issueId" (.one (.ref "audits" "IssueId")) ] ]

def commands : List Command :=
  [ { name := "get_encoded_response", method := "Audits.getEncodedResponse",
      parameters :=
        [ .required "request_id" "requestId" (.one (.ref "network" "RequestId")),
          .required "encoding" "encoding" (.one .text),
          .optional "quality" "quality" (.one .number),
          .optional "size_only" "sizeOnly" (.one .boolean) ],
      returns :=
        [ .optional "body" (.one .text),
          .required "originalSize" (.one .integer),
          .required "encodedSize" (.one .integer) ] },
    { name := "disable", method := "Audits.disable",
      parameters := [],
      returns := [] },
    { name := "enable", method := "Audits.enable",
      parameters := [],
      returns := [] },
    { name := "check_contrast", method := "Audits.checkContrast",
      parameters :=
        [ .optional "report_aaa" "reportAAA" (.one .boolean) ],
      returns := [] } ]

def events : List Event :=
  [ { name := "IssueAdded", method := "Audits.issueAdded",
      fields :=
        [ .required "issue" "issue" (.one (.ref "audits" "InspectorIssue")) ] } ]

def domain : DevTools.Domain where
  name := "Audits"
  scope := "audits"
  types := types
  commands := commands
  events := events

end DevTools.Domain.Audits
