import DevTools.Schema

namespace DevTools.Domain.Network

def types : List Declaration :=
  [ .enumeration "ResourceType"
      [ ("DOCUMENT", "Document"), ("STYLESHEET", "Stylesheet"), ("IMAGE", "Image"),
        ("MEDIA", "Media"), ("FONT", "Font"), ("SCRIPT", "Script"), ("TEXT_TRACK", "TextTrack"),
        ("XHR", "XHR"), ("FETCH", "Fetch"), ("EVENT_SOURCE", "EventSource"),
        ("WEB_SOCKET", "WebSocket"), ("MANIFEST", "Manifest"),
        ("SIGNED_EXCHANGE", "SignedExchange"), ("PING", "Ping"),
        ("CSP_VIOLATION_REPORT", "CSPViolationReport"), ("PREFLIGHT", "Preflight"),
        ("OTHER", "Other") ],
    .wrapper "LoaderId" .text,
    .wrapper "RequestId" .text,
    .wrapper "InterceptionId" .text,
    .enumeration "ErrorReason"
      [ ("FAILED", "Failed"), ("ABORTED", "Aborted"), ("TIMED_OUT", "TimedOut"),
        ("ACCESS_DENIED", "AccessDenied"), ("CONNECTION_CLOSED", "ConnectionClosed"),
        ("CONNECTION_RESET", "ConnectionReset"), ("CONNECTION_REFUSED", "ConnectionRefused"),
        ("CONNECTION_ABORTED", "ConnectionAborted"), ("CONNECTION_FAILED", "ConnectionFailed"),
        ("NAME_NOT_RESOLVED", "NameNotResolved"),
        ("INTERNET_DISCONNECTED", "InternetDisconnected"),
        ("ADDRESS_UNREACHABLE", "AddressUnreachable"), ("BLOCKED_BY_CLIENT", "BlockedByClient"),
        ("BLOCKED_BY_RESPONSE", "BlockedByResponse") ],
    .wrapper "TimeSinceEpoch" .number,
    .wrapper "MonotonicTime" .number,
    .wrapper "Headers" .dict,
    .enumeration "ConnectionType"
      [ ("NONE", "none"), ("CELLULAR2G", "cellular2g"), ("CELLULAR3G", "cellular3g"),
        ("CELLULAR4G", "cellular4g"), ("BLUETOOTH", "bluetooth"), ("ETHERNET", "ethernet"),
        ("WIFI", "wifi"), ("WIMAX", "wimax"), ("OTHER", "other") ],
    .enumeration "CookieSameSite" [("STRICT", "Strict"), ("LAX", "Lax"), ("NONE", "None")],
    .enumeration "CookiePriority" [("LOW", "Low"), ("MEDIUM", "Medium"), ("HIGH", "High")],
    .enumeration "CookieSourceScheme"
      [ ("UNSET", "Unset"), ("NON_SECURE", "NonSecure"), ("SECURE", "Secure") ],
    .record "ResourceTiming"
      [ .required "request_time" "requestTime" (.one .number),
        .required "proxy_start" "proxyStart" (.one .number),
        .required "proxy_end" "proxyEnd" (.one .number),
        .required "dns_start" "dnsStart" (.one .number),
        .required "dns_end" "dnsEnd" (.one .number),
        .required "connect_start" "connectStart" (.one .number),
        .required "connect_end" "connectEnd" (.one .number),
        .required "ssl_start" "sslStart" (.one .number),
        .required "ssl_end" "sslEnd" (.one .number),
        .required "worker_start" "workerStart" (.one .number),
        .required "worker_ready" "workerReady" (.one .number),
        .required "worker_fetch_start" "workerFetchStart" (.one .number),
        .required "worker_respond_with_settled" "workerRespondWithSettled" (.one .number),
        .required "send_start" "sendStart" (.one .number),
        .required "send_end" "sendEnd" (.one .number),
        .required "push_start" "pushStart" (.one .number),
        .required "push_end" "pushEnd" (.one .number),
        .required "receive_headers_end" "receiveHeadersEnd" (.one .number) ],
    .enumeration "ResourcePriority"
      [ ("VERY_LOW", "VeryLow"), ("LOW", "Low"), ("MEDIUM", "Medium"), ("HIGH", "High"),
        ("VERY_HIGH", "VeryHigh") ],
    .record "PostDataEntry"
      [ .optional "bytes_" "bytes" (.one .text) ],
    .record "Request"
      [ .required "url" "url" (.one .text),
        .required "method" "method" (.one .text),
        .required "headers" "headers" (.one (.ref "network" "Headers")),
        .required "initial_priority" "initialPriority"
          (.one (.ref "network" "ResourcePriority")),
        .required "referrer_policy" "referrerPolicy" (.one .text),
        .optional "url_fragment" "urlFragment" (.one .text),
        .optional "post_data" "postData" (.one .text),
        .optional "has_post_data" "hasPostData" (.one .boolean),
        .optional "post_data_entries" "postDataEntries"
          (.many (.ref "network" "PostDataEntry")),
        .optional "mixed_content_type" "mixedContentType"
          (.one (.ref "security" "MixedContentType")),
        .optional "is_link_preload" "isLinkPreload" (.one .boolean),
        .optional "trust_token_params" "trustTokenParams"
          (.one (.ref "network" "TrustTokenParams")),
        .optional "is_same_site" "isSameSite" (.one .boolean) ],
    .record "SignedCertificateTimestamp"
      [ .required "status" "status" (.one .text),
        .required "origin" "origin" (.one .text),
        .required "log_description" "logDescription" (.one .text),
        .required "log_id" "logId" (.one .text),
        .required "timestamp" "timestamp" (.one .number),
        .required "hash_algorithm" "hashAlgorithm" (.one .text),
        .required "signature_algorithm" "signatureAlgorithm" (.one .text),
        .required "signature_data" "signatureData" (.one .text) ],
    .record "SecurityDetails"
      [ .required "protocol" "protocol" (.one .text),
        .required "key_exchange" "keyExchange" (.one .text),
        .required "cipher" "cipher" (.one .text),
        .required "certificate_id" "certificateId" (.one (.ref "security" "CertificateId")),
        .required "subject_name" "subjectName" (.one .text),
        .required "san_list" "sanList" (.many .text),
        .required "issuer" "issuer" (.one .text),
        .required "valid_from" "validFrom" (.one (.ref "network" "TimeSinceEpoch")),
        .required "valid_to" "validTo" (.one (.ref "network" "TimeSinceEpoch")),
        .required "signed_certificate_timestamp_list" "signedCertificateTimestampList"
          (.many (.ref "network" "SignedCertificateTimestamp")),
        .required "certificate_transparency_compliance" "certificateTransparencyCompliance"
          (.one (.ref "network" "CertificateTransparencyCompliance")),
        .optional "key_exchange_group" "keyExchangeGroup" (.one .text),
        .optional "mac" "mac" (.one .text) ],
    .enumeration "CertificateTransparencyCompliance"
      [ ("UNKNOWN", "unknown"), ("NOT_COMPLIANT", "not-compliant"), ("COMPLIANT", "compliant") ],
    .enumeration "BlockedReason"
      [ ("OTHER", "other"), ("CSP", "csp"), ("MIXED_CONTENT", "mixed-content"),
        ("ORIGIN", "origin"), ("INSPECTOR", "inspector"),
        ("SUBRESOURCE_FILTER", "subresource-filter"), ("CONTENT_TYPE", "content-type"),
        ("COEP_FRAME_RESOURCE_NEEDS_COEP_HEADER", "coep-frame-resource-needs-coep-header"),
        ("COOP_SANDBOXED_IFRAME_CANNOT_NAVIGATE_TO_COOP_PAGE",
          "coop-sandboxed-iframe-cannot-navigate-to-coop-page"),
        ("CORP_NOT_SAME_ORIGIN", "corp-not-same-origin"),
        ("CORP_NOT_SAME_ORIGIN_AFTER_DEFAULTED_TO_SAME_ORIGIN_BY_COEP",
          "corp-not-same-origin-after-defaulted-to-same-origin-by-coep"),
        ("CORP_NOT_SAME_SITE", "corp-not-same-site") ],
    .enumeration "CorsError"
      [ ("DISALLOWED_BY_MODE", "DisallowedByMode"), ("INVALID_RESPONSE", "InvalidResponse"),
        ("WILDCARD_ORIGIN_NOT_ALLOWED", "WildcardOriginNotAllowed"),
        ("MISSING_ALLOW_ORIGIN_HEADER", "MissingAllowOriginHeader"),
        ("MULTIPLE_ALLOW_ORIGIN_VALUES", "MultipleAllowOriginValues"),
        ("INVALID_ALLOW_ORIGIN_VALUE", "InvalidAllowOriginValue"),
        ("ALLOW_ORIGIN_MISMATCH", "AllowOriginMismatch"),
        ("INVALID_ALLOW_CREDENTIALS", "InvalidAllowCredentials"),
        ("CORS_DISABLED_SCHEME", "CorsDisabledScheme"),
        ("PREFLIGHT_INVALID_STATUS", "PreflightInvalidStatus"),
        ("PREFLIGHT_DISALLOWED_REDIRECT", "PreflightDisallowedRedirect"),
        ("PREFLIGHT_WILDCARD_ORIGIN_NOT_ALLOWED", "PreflightWildcardOriginNotAllowed"),
        ("PREFLIGHT_MISSING_ALLOW_ORIGIN_HEADER", "PreflightMissingAllowOriginHeader"),
        ("PREFLIGHT_MULTIPLE_ALLOW_ORIGIN_VALUES", "PreflightMultipleAllowOriginValues"),
        ("PREFLIGHT_INVALID_ALLOW_ORIGIN_VALUE", "PreflightInvalidAllowOriginValue"),
        ("PREFLIGHT_ALLOW_ORIGIN_MISMATCH", "PreflightAllowOriginMismatch"),
        ("PREFLIGHT_INVALID_ALLOW_CREDENTIALS", "PreflightInvalidAllowCredentials"),
        ("PREFLIGHT_MISSING_ALLOW_EXTERNAL", "PreflightMissingAllowExternal"),
        ("PREFLIGHT_INVALID_ALLOW_EXTERNAL", "PreflightInvalidAllowExternal"),
        ("PREFLIGHT_MISSING_ALLOW_PRIVATE_NETWORK", "PreflightMissingAllowPrivateNetwork"),
        ("PREFLIGHT_INVALID_ALLOW_PRIVATE_NETWORK", "PreflightInvalidAllowPrivateNetwork"),
        ("INVALID_ALLOW_METHODS_PREFLIGHT_RESPONSE", "InvalidAllowMethodsPreflightResponse"),
        ("INVALID_ALLOW_HEADERS_PREFLIGHT_RESPONSE", "InvalidAllowHeadersPreflightResponse"),
        ("METHOD_DISALLOWED_BY_PREFLIGHT_RESPONSE", "MethodDisallowedByPreflightResponse"),
        ("HEADER_DISALLOWED_BY_PREFLIGHT_RESPONSE", "HeaderDisallowedByPreflightResponse"),
        ("REDIRECT_CONTAINS_CREDENTIALS", "RedirectContainsCredentials"),
        ("INSECURE_PRIVATE_NETWORK", "InsecurePrivateNetwork"),
        ("INVALID_PRIVATE_NETWORK_ACCESS", "InvalidPrivateNetworkAccess"),
        ("UNEXPECTED_PRIVATE_NETWORK_ACCESS", "UnexpectedPrivateNetworkAccess"),
        ("NO_CORS_REDIRECT_MODE_NOT_FOLLOW", "NoCorsRedirectModeNotFollow") ],
    .record "CorsErrorStatus"
      [ .required "cors_error" "corsError" (.one (.ref "network" "CorsError")),
        .required "failed_parameter" "failedParameter" (.one .text) ],
    .enumeration "ServiceWorkerResponseSource"
      [ ("CACHE_STORAGE", "cache-storage"), ("HTTP_CACHE", "http-cache"),
        ("FALLBACK_CODE", "fallback-code"), ("NETWORK", "network") ],
    .record "TrustTokenParams"
      [ .required "type_" "type" (.one (.ref "network" "TrustTokenOperationType")),
        .required "refresh_policy" "refreshPolicy" (.one .text),
        .optional "issuers" "issuers" (.many .text) ],
    .enumeration "TrustTokenOperationType"
      [ ("ISSUANCE", "Issuance"), ("REDEMPTION", "Redemption"), ("SIGNING", "Signing") ],
    .record "Response"
      [ .required "url" "url" (.one .text),
        .required "status" "status" (.one .integer),
        .required "status_text" "statusText" (.one .text),
        .required "headers" "headers" (.one (.ref "network" "Headers")),
        .required "mime_type" "mimeType" (.one .text),
        .required "connection_reused" "connectionReused" (.one .boolean),
        .required "connection_id" "connectionId" (.one .number),
        .required "encoded_data_length" "encodedDataLength" (.one .number),
        .required "security_state" "securityState" (.one (.ref "security" "SecurityState")),
        .optional "headers_text" "headersText" (.one .text),
        .optional "request_headers" "requestHeaders" (.one (.ref "network" "Headers")),
        .optional "request_headers_text" "requestHeadersText" (.one .text),
        .optional "remote_ip_address" "remoteIPAddress" (.one .text),
        .optional "remote_port" "remotePort" (.one .integer),
        .optional "from_disk_cache" "fromDiskCache" (.one .boolean),
        .optional "from_service_worker" "fromServiceWorker" (.one .boolean),
        .optional "from_prefetch_cache" "fromPrefetchCache" (.one .boolean),
        .optional "timing" "timing" (.one (.ref "network" "ResourceTiming")),
        .optional "service_worker_response_source" "serviceWorkerResponseSource"
          (.one (.ref "network" "ServiceWorkerResponseSource")),
        .optional "response_time" "responseTime" (.one (.ref "network" "TimeSinceEpoch")),
        .optional "cache_storage_cache_name" "cacheStorageCacheName" (.one .text),
        .optional "protocol" "protocol" (.one .text),
        .optional "security_details" "securityDetails"
          (.one (.ref "network" "SecurityDetails")) ],
    .record "WebSocketRequest"
      [ .required "headers" "headers" (.one (.ref "network" "Headers")) ],
    .record "WebSocketResponse"
      [ .required "status" "status" (.one .integer),
        .required "status_text" "statusText" (.one .text),
        .required "headers" "headers" (.one (.ref "network" "Headers")),
        .optional "headers_text" "headersText" (.one .text),
        .optional "request_headers" "requestHeaders" (.one (.ref "network" "Headers")),
        .optional "request_headers_text" "requestHeadersText" (.one .text) ],
    .record "WebSocketFrame"
      [ .required "opcode" "opcode" (.one .number),
        .required "mask" "mask" (.one .boolean),
        .required "payload_data" "payloadData" (.one .text) ],
    .record "CachedResource"
      [ .required "url" "url" (.one .text),
        .required "type_" "type" (.one (.ref "network" "ResourceType")),
        .required "body_size" "bodySize" (.one .number),
        .optional "response" "response" (.one (.ref "network" "Response")) ],
    .record "Initiator"
      [ .required "type_" "type" (.one .text),
        .optional "stack" "stack" (.one (.ref "runtime" "StackTrace")),
        .optional "url" "url" (.one .text),
        .optional "line_number" "lineNumber" (.one .number),
        .optional "column_number" "columnNumber" (.one .number),
        .optional "request_id" "requestId" (.one (.ref "network" "RequestId")) ],
    .record "Cookie"
      [ .required "name" "name" (.one .text),
        .required "value" "value" (.one .text),
        .required "domain" "domain" (.one .text),
        .required "path" "path" (.one .text),
        .required "expires" "expires" (.one .number),
        .required "size" "size" (.one .integer),
        .required "http_only" "httpOnly" (.one .boolean),
        .required "secure" "secure" (.one .boolean),
        .required "session" "session" (.one .boolean),
        .required "priority" "priority" (.one (.ref "network" "CookiePriority")),
        .required "same_party" "sameParty" (.one .boolean),
        .required "source_scheme" "sourceScheme" (.one (.ref "network" "CookieSourceScheme")),
        .required "source_port" "sourcePort" (.one .integer),
        .optional "same_site" "sameSite" (.one (.ref "network" "CookieSameSite")),
        .optional "partition_key" "partitionKey" (.one .text),
        .optional "partition_key_opaque" "partitionKeyOpaque" (.one .boolean) ],
    .enumeration "SetCookieBlockedReason"
      [ ("SECURE_ONLY", "SecureOnly"), ("SAME_SITE_STRICT", "SameSiteStrict"),
        ("SAME_SITE_LAX", "SameSiteLax"),
        ("SAME_SITE_UNSPECIFIED_TREATED_AS_LAX", "SameSiteUnspecifiedTreatedAsLax"),
        ("SAME_SITE_NONE_INSECURE", "SameSiteNoneInsecure"),
        ("USER_PREFERENCES", "UserPreferences"), ("SYNTAX_ERROR", "SyntaxError"),
        ("SCHEME_NOT_SUPPORTED", "SchemeNotSupported"), ("OVERWRITE_SECURE", "OverwriteSecure"),
        ("INVALID_DOMAIN", "InvalidDomain"), ("INVALID_PREFIX", "InvalidPrefix"),
        ("UNKNOWN_ERROR", "UnknownError"),
        ("SCHEMEFUL_SAME_SITE_STRICT", "SchemefulSameSiteStrict"),
        ("SCHEMEFUL_SAME_SITE_LAX", "SchemefulSameSiteLax"),
        ("SCHEMEFUL_SAME_SITE_UNSPECIFIED_TREATED_AS_LAX",
          "SchemefulSameSiteUnspecifiedTreatedAsLax"),
        ("SAME_PARTY_FROM_CROSS_PARTY_CONTEXT", "SamePartyFromCrossPartyContext"),
        ("SAME_PARTY_CONFLICTS_WITH_OTHER_ATTRIBUTES", "SamePartyConflictsWithOtherAttributes"),
        ("NAME_VALUE_PAIR_EXCEEDS_MAX_SIZE", "NameValuePairExceedsMaxSize") ],
    .enumeration "CookieBlockedReason"
      [ ("SECURE_ONLY", "SecureOnly"), ("NOT_ON_PATH", "NotOnPath"),
        ("DOMAIN_MISMATCH", "DomainMismatch"), ("SAME_SITE_STRICT", "SameSiteStrict"),
        ("SAME_SITE_LAX", "SameSiteLax"),
        ("SAME_SITE_UNSPECIFIED_TREATED_AS_LAX", "SameSiteUnspecifiedTreatedAsLax"),
        ("SAME_SITE_NONE_INSECURE", "SameSiteNoneInsecure"),
        ("USER_PREFERENCES", "UserPreferences"), ("UNKNOWN_ERROR", "UnknownError"),
        ("SCHEMEFUL_SAME_SITE_STRICT", "SchemefulSameSiteStrict"),
        ("SCHEMEFUL_SAME_SITE_LAX", "SchemefulSameSiteLax"),
        ("SCHEMEFUL_SAME_SITE_UNSPECIFIED_TREATED_AS_LAX",
          "SchemefulSameSiteUnspecifiedTreatedAsLax"),
        ("SAME_PARTY_FROM_CROSS_PARTY_CONTEXT", "SamePartyFromCrossPartyContext"),
        ("NAME_VALUE_PAIR_EXCEEDS_MAX_SIZE", "NameValuePairExceedsMaxSize") ],
    .record "BlockedSetCookieWithReason"
      [ .required "blocked_reasons" "blockedReasons"
          (.many (.ref "network" "SetCookieBlockedReason")),
        .required "cookie_line" "cookieLine" (.one .text),
        .optional "cookie" "cookie" (.one (.ref "network" "Cookie")) ],
    .record "BlockedCookieWithReason"
      [ .required "blocked_reasons" "blockedReasons"
          (.many (.ref "network" "CookieBlockedReason")),
        .required "cookie" "cookie" (.one (.ref "network" "Cookie")) ],
    .record "CookieParam"
      [ .required "name" "name" (.one .text),
        .required "value" "value" (.one .text),
        .optional "url" "url" (.one .text),
        .optional "domain" "domain" (.one .text),
        .optional "path" "path" (.one .text),
        .optional "secure" "secure" (.one .boolean),
        .optional "http_only" "httpOnly" (.one .boolean),
        .optional "same_site" "sameSite" (.one (.ref "network" "CookieSameSite")),
        .optional "expires" "expires" (.one (.ref "network" "TimeSinceEpoch")),
        .optional "priority" "priority" (.one (.ref "network" "CookiePriority")),
        .optional "same_party" "sameParty" (.one .boolean),
        .optional "source_scheme" "sourceScheme" (.one (.ref "network" "CookieSourceScheme")),
        .optional "source_port" "sourcePort" (.one .integer),
        .optional "partition_key" "partitionKey" (.one .text) ],
    .record "AuthChallenge"
      [ .required "origin" "origin" (.one .text),
        .required "scheme" "scheme" (.one .text),
        .required "realm" "realm" (.one .text),
        .optional "source" "source" (.one .text) ],
    .record "AuthChallengeResponse"
      [ .required "response" "response" (.one .text),
        .optional "username" "username" (.one .text),
        .optional "password" "password" (.one .text) ],
    .enumeration "InterceptionStage"
      [ ("REQUEST", "Request"), ("HEADERS_RECEIVED", "HeadersReceived") ],
    .record "RequestPattern"
      [ .optional "url_pattern" "urlPattern" (.one .text),
        .optional "resource_type" "resourceType" (.one (.ref "network" "ResourceType")),
        .optional "interception_stage" "interceptionStage"
          (.one (.ref "network" "InterceptionStage")) ],
    .record "SignedExchangeSignature"
      [ .required "label" "label" (.one .text),
        .required "signature" "signature" (.one .text),
        .required "integrity" "integrity" (.one .text),
        .required "validity_url" "validityUrl" (.one .text),
        .required "date" "date" (.one .integer),
        .required "expires" "expires" (.one .integer),
        .optional "cert_url" "certUrl" (.one .text),
        .optional "cert_sha256" "certSha256" (.one .text),
        .optional "certificates" "certificates" (.many .text) ],
    .record "SignedExchangeHeader"
      [ .required "request_url" "requestUrl" (.one .text),
        .required "response_code" "responseCode" (.one .integer),
        .required "response_headers" "responseHeaders" (.one (.ref "network" "Headers")),
        .required "signatures" "signatures" (.many (.ref "network" "SignedExchangeSignature")),
        .required "header_integrity" "headerIntegrity" (.one .text) ],
    .enumeration "SignedExchangeErrorField"
      [ ("SIGNATURE_SIG", "signatureSig"), ("SIGNATURE_INTEGRITY", "signatureIntegrity"),
        ("SIGNATURE_CERT_URL", "signatureCertUrl"),
        ("SIGNATURE_CERT_SHA256", "signatureCertSha256"),
        ("SIGNATURE_VALIDITY_URL", "signatureValidityUrl"),
        ("SIGNATURE_TIMESTAMPS", "signatureTimestamps") ],
    .record "SignedExchangeError"
      [ .required "message" "message" (.one .text),
        .optional "signature_index" "signatureIndex" (.one .integer),
        .optional "error_field" "errorField" (.one (.ref "network" "SignedExchangeErrorField")) ],
    .record "SignedExchangeInfo"
      [ .required "outer_response" "outerResponse" (.one (.ref "network" "Response")),
        .optional "header" "header" (.one (.ref "network" "SignedExchangeHeader")),
        .optional "security_details" "securityDetails"
          (.one (.ref "network" "SecurityDetails")),
        .optional "errors" "errors" (.many (.ref "network" "SignedExchangeError")) ],
    .enumeration "ContentEncoding" [("DEFLATE", "deflate"), ("GZIP", "gzip"), ("BR", "br")],
    .enumeration "PrivateNetworkRequestPolicy"
      [ ("ALLOW", "Allow"),
        ("BLOCK_FROM_INSECURE_TO_MORE_PRIVATE", "BlockFromInsecureToMorePrivate"),
        ("WARN_FROM_INSECURE_TO_MORE_PRIVATE", "WarnFromInsecureToMorePrivate"),
        ("PREFLIGHT_BLOCK", "PreflightBlock"), ("PREFLIGHT_WARN", "PreflightWarn") ],
    .enumeration "IPAddressSpace"
      [ ("LOCAL", "Local"), ("PRIVATE", "Private"), ("PUBLIC", "Public"), ("UNKNOWN", "Unknown") ],
    .record "ConnectTiming"
      [ .required "request_time" "requestTime" (.one .number) ],
    .record "ClientSecurityState"
      [ .required "initiator_is_secure_context" "initiatorIsSecureContext" (.one .boolean),
        .required "initiator_ip_address_space" "initiatorIPAddressSpace"
          (.one (.ref "network" "IPAddressSpace")),
        .required "private_network_request_policy" "privateNetworkRequestPolicy"
          (.one (.ref "network" "PrivateNetworkRequestPolicy")) ],
    .enumeration "CrossOriginOpenerPolicyValue"
      [ ("SAME_ORIGIN", "SameOrigin"), ("SAME_ORIGIN_ALLOW_POPUPS", "SameOriginAllowPopups"),
        ("UNSAFE_NONE", "UnsafeNone"), ("SAME_ORIGIN_PLUS_COEP", "SameOriginPlusCoep") ],
    .record "CrossOriginOpenerPolicyStatus"
      [ .required "value" "value" (.one (.ref "network" "CrossOriginOpenerPolicyValue")),
        .required "report_only_value" "reportOnlyValue"
          (.one (.ref "network" "CrossOriginOpenerPolicyValue")),
        .optional "reporting_endpoint" "reportingEndpoint" (.one .text),
        .optional "report_only_reporting_endpoint" "reportOnlyReportingEndpoint" (.one .text) ],
    .enumeration "CrossOriginEmbedderPolicyValue"
      [ ("NONE", "None"), ("CREDENTIALLESS", "Credentialless"), ("REQUIRE_CORP", "RequireCorp") ],
    .record "CrossOriginEmbedderPolicyStatus"
      [ .required "value" "value" (.one (.ref "network" "CrossOriginEmbedderPolicyValue")),
        .required "report_only_value" "reportOnlyValue"
          (.one (.ref "network" "CrossOriginEmbedderPolicyValue")),
        .optional "reporting_endpoint" "reportingEndpoint" (.one .text),
        .optional "report_only_reporting_endpoint" "reportOnlyReportingEndpoint" (.one .text) ],
    .record "SecurityIsolationStatus"
      [ .optional "coop" "coop" (.one (.ref "network" "CrossOriginOpenerPolicyStatus")),
        .optional "coep" "coep" (.one (.ref "network" "CrossOriginEmbedderPolicyStatus")) ],
    .enumeration "ReportStatus"
      [ ("QUEUED", "Queued"), ("PENDING", "Pending"), ("MARKED_FOR_REMOVAL", "MarkedForRemoval"),
        ("SUCCESS", "Success") ],
    .wrapper "ReportId" .text,
    .record "ReportingApiReport"
      [ .required "id_" "id" (.one (.ref "network" "ReportId")),
        .required "initiator_url" "initiatorUrl" (.one .text),
        .required "destination" "destination" (.one .text),
        .required "type_" "type" (.one .text),
        .required "timestamp" "timestamp" (.one (.selfNamed "network" "TimeSinceEpoch")),
        .required "depth" "depth" (.one .integer),
        .required "completed_attempts" "completedAttempts" (.one .integer),
        .required "body" "body" (.one .dict),
        .required "status" "status" (.one (.ref "network" "ReportStatus")) ],
    .record "ReportingApiEndpoint"
      [ .required "url" "url" (.one .text),
        .required "group_name" "groupName" (.one .text) ],
    .record "LoadNetworkResourcePageResult"
      [ .required "success" "success" (.one .boolean),
        .optional "net_error" "netError" (.one .number),
        .optional "net_error_name" "netErrorName" (.one .text),
        .optional "http_status_code" "httpStatusCode" (.one .number),
        .optional "stream" "stream" (.one (.ref "io" "StreamHandle")),
        .optional "headers" "headers" (.one (.selfNamed "network" "Headers")) ],
    .record "LoadNetworkResourceOptions"
      [ .required "disable_cache" "disableCache" (.one .boolean),
        .required "include_credentials" "includeCredentials" (.one .boolean) ] ]

def commands : List Command :=
  [ { name := "set_accepted_encodings", method := "Network.setAcceptedEncodings",
      parameters :=
        [ .required "encodings" "encodings" (.many (.ref "network" "ContentEncoding")) ],
      returns := [] },
    { name := "clear_accepted_encodings_override",
      method := "Network.clearAcceptedEncodingsOverride",
      parameters := [],
      returns := [] },
    { name := "can_clear_browser_cache",
      method := "Network.canClearBrowserCache", deprecated := true,
      parameters := [],
      returns :=
        [ .required "result" (.one .boolean) ] },
    { name := "can_clear_browser_cookies",
      method := "Network.canClearBrowserCookies", deprecated := true,
      parameters := [],
      returns :=
        [ .required "result" (.one .boolean) ] },
    { name := "can_emulate_network_conditions",
      method := "Network.canEmulateNetworkConditions", deprecated := true,
      parameters := [],
      returns :=
        [ .required "result" (.one .boolean) ] },
    { name := "clear_browser_cache", method := "Network.clearBrowserCache",
      parameters := [],
      returns := [] },
    { name := "clear_browser_cookies", method := "Network.clearBrowserCookies",
      parameters := [],
      returns := [] },
    { name := "continue_intercepted_request",
      method := "Network.continueInterceptedRequest", deprecated := true,
      parameters :=
        [ .required "interception_id" "interceptionId" (.one (.ref "network" "InterceptionId")),
          .optional "error_reason" "errorReason" (.one (.ref "network" "ErrorReason")),
          .optional "raw_response" "rawResponse" (.one .text),
          .optional "url" "url" (.one .text),
          .optional "method" "method" (.one .text),
          .optional "post_data" "postData" (.one .text),
          .optional "headers" "headers" (.one (.ref "network" "Headers")),
          .optional "auth_challenge_response" "authChallengeResponse"
            (.one (.ref "network" "AuthChallengeResponse")) ],
      returns := [] },
    { name := "delete_cookies", method := "Network.deleteCookies",
      parameters :=
        [ .required "name" "name" (.one .text),
          .optional "url" "url" (.one .text),
          .optional "domain" "domain" (.one .text),
          .optional "path" "path" (.one .text) ],
      returns := [] },
    { name := "disable", method := "Network.disable",
      parameters := [],
      returns := [] },
    { name := "emulate_network_conditions", method := "Network.emulateNetworkConditions",
      parameters :=
        [ .required "offline" "offline" (.one .boolean),
          .required "latency" "latency" (.one .number),
          .required "download_throughput" "downloadThroughput" (.one .number),
          .required "upload_throughput" "uploadThroughput" (.one .number),
          .optional "connection_type" "connectionType" (.one (.ref "network" "ConnectionType")) ],
      returns := [] },
    { name := "enable", method := "Network.enable",
      parameters :=
        [ .optional "max_total_buffer_size" "maxTotalBufferSize" (.one .integer),
          .optional "max_resource_buffer_size" "maxResourceBufferSize" (.one .integer),
          .optional "max_post_data_size" "maxPostDataSize" (.one .integer) ],
      returns := [] },
    { name := "get_all_cookies", method := "Network.getAllCookies",
      parameters := [],
      returns :=
        [ .required "cookies" (.many (.ref "network" "Cookie")) ] },
    { name := "get_certificate", method := "Network.getCertificate",
      parameters :=
        [ .required "origin" "origin" (.one .text) ],
      returns :=
        [ .required "tableNames" (.many .text) ] },
    { name := "get_cookies", method := "Network.getCookies",
      parameters :=
        [ .optional "urls" "urls" (.many .text) ],
      returns :=
        [ .required "cookies" (.many (.ref "network" "Cookie")) ] },
    { name := "get_response_body", method := "Network.getResponseBody",
      parameters :=
        [ .required "request_id" "requestId" (.one (.ref "network" "RequestId")) ],
      returns :=
        [ .required "body" (.one .text),
          .required "base64Encoded" (.one .boolean) ] },
    { name := "get_request_post_data", method := "Network.getRequestPostData",
      parameters :=
        [ .required "request_id" "requestId" (.one (.ref "network" "RequestId")) ],
      returns :=
        [ .required "postData" (.one .text) ] },
    { name := "get_response_body_for_interception",
      method := "Network.getResponseBodyForInterception",
      parameters :=
        [ .required "interception_id" "interceptionId" (.one (.ref "network" "InterceptionId")) ],
      returns :=
        [ .required "body" (.one .text),
          .required "base64Encoded" (.one .boolean) ] },
    { name := "take_response_body_for_interception_as_stream",
      method := "Network.takeResponseBodyForInterceptionAsStream",
      parameters :=
        [ .required "interception_id" "interceptionId" (.one (.ref "network" "InterceptionId")) ],
      returns :=
        [ .required "stream" (.one (.ref "io" "StreamHandle")) ] },
    { name := "replay_xhr", method := "Network.replayXHR",
      parameters :=
        [ .required "request_id" "requestId" (.one (.ref "network" "RequestId")) ],
      returns := [] },
    { name := "search_in_response_body", method := "Network.searchInResponseBody",
      parameters :=
        [ .required "request_id" "requestId" (.one (.ref "network" "RequestId")),
          .required "query" "query" (.one .text),
          .optional "case_sensitive" "caseSensitive" (.one .boolean),
          .optional "is_regex" "isRegex" (.one .boolean) ],
      returns :=
        [ .required "result" (.many (.ref "debugger" "SearchMatch")) ] },
    { name := "set_blocked_ur_ls", method := "Network.setBlockedURLs",
      parameters :=
        [ .required "urls" "urls" (.many .text) ],
      returns := [] },
    { name := "set_bypass_service_worker", method := "Network.setBypassServiceWorker",
      parameters :=
        [ .required "bypass" "bypass" (.one .boolean) ],
      returns := [] },
    { name := "set_cache_disabled", method := "Network.setCacheDisabled",
      parameters :=
        [ .required "cache_disabled" "cacheDisabled" (.one .boolean) ],
      returns := [] },
    { name := "set_cookie", method := "Network.setCookie",
      parameters :=
        [ .required "name" "name" (.one .text),
          .required "value" "value" (.one .text),
          .optional "url" "url" (.one .text),
          .optional "domain" "domain" (.one .text),
          .optional "path" "path" (.one .text),
          .optional "secure" "secure" (.one .boolean),
          .optional "http_only" "httpOnly" (.one .boolean),
          .optional "same_site" "sameSite" (.one (.ref "network" "CookieSameSite")),
          .optional "expires" "expires" (.one (.ref "network" "TimeSinceEpoch")),
          .optional "priority" "priority" (.one (.ref "network" "CookiePriority")),
          .optional "same_party" "sameParty" (.one .boolean),
          .optional "source_scheme" "sourceScheme" (.one (.ref "network" "CookieSourceScheme")),
          .optional "source_port" "sourcePort" (.one .integer),
          .optional "partition_key" "partitionKey" (.one .text) ],
      returns :=
        [ .required "success" (.one .boolean) ] },
    { name := "set_cookies", method := "Network.setCookies",
      parameters :=
        [ .required "cookies" "cookies" (.many (.ref "network" "CookieParam")) ],
      returns := [] },
    { name := "set_extra_http_headers", method := "Network.setExtraHTTPHeaders",
      parameters :=
        [ .required "headers" "headers" (.one (.ref "network" "Headers")) ],
      returns := [] },
    { name := "set_attach_debug_stack", method := "Network.setAttachDebugStack",
      parameters :=
        [ .required "enabled" "enabled" (.one .boolean) ],
      returns := [] },
    { name := "set_request_interception",
      method := "Network.setRequestInterception", deprecated := true,
      parameters :=
        [ .required "patterns" "patterns" (.many (.ref "network" "RequestPattern")) ],
      returns := [] },
    { name := "set_user_agent_override", method := "Network.setUserAgentOverride",
      parameters :=
        [ .required "user_agent" "userAgent" (.one .text),
          .optional "accept_language" "acceptLanguage" (.one .text),
          .optional "platform" "platform" (.one .text),
          .optional "user_agent_metadata" "userAgentMetadata"
            (.one (.ref "emulation" "UserAgentMetadata")) ],
      returns := [] },
    { name := "get_security_isolation_status", method := "Network.getSecurityIsolationStatus",
      parameters :=
        [ .optional "frame_id" "frameId" (.one (.ref "page" "FrameId")) ],
      returns :=
        [ .required "status" (.one (.ref "network" "SecurityIsolationStatus")) ] },
    { name := "enable_reporting_api", method := "Network.enableReportingApi",
      parameters :=
        [ .required "enable" "enable" (.one .boolean) ],
      returns := [] },
    { name := "load_network_resource", method := "Network.loadNetworkResource",
      parameters :=
        [ .optional "frame_id" "frameId" (.one (.ref "page" "FrameId")),
          .required "url" "url" (.one .text),
          .required "options" "options" (.one (.ref "network" "LoadNetworkResourceOptions")) ],
      returns :=
        [ .required "resource" (.one (.ref "network" "LoadNetworkResourcePageResult")) ] } ]

def events : List Event :=
  [ { name := "DataReceived", method := "Network.dataReceived",
      fields :=
        [ .required "request_id" "requestId" (.one (.ref "network" "RequestId")),
          .required "timestamp" "timestamp" (.one (.ref "network" "MonotonicTime")),
          .required "data_length" "dataLength" (.one .integer),
          .required "encoded_data_length" "encodedDataLength" (.one .integer) ] },
    { name := "EventSourceMessageReceived", method := "Network.eventSourceMessageReceived",
      fields :=
        [ .required "request_id" "requestId" (.one (.ref "network" "RequestId")),
          .required "timestamp" "timestamp" (.one (.ref "network" "MonotonicTime")),
          .required "event_name" "eventName" (.one .text),
          .required "event_id" "eventId" (.one .text),
          .required "data" "data" (.one .text) ] },
    { name := "LoadingFailed", method := "Network.loadingFailed",
      fields :=
        [ .required "request_id" "requestId" (.one (.ref "network" "RequestId")),
          .required "timestamp" "timestamp" (.one (.ref "network" "MonotonicTime")),
          .required "type_" "type" (.one (.ref "network" "ResourceType")),
          .required "error_text" "errorText" (.one .text),
          .optional "canceled" "canceled" (.one .boolean),
          .optional "blocked_reason" "blockedReason" (.one (.ref "network" "BlockedReason")),
          .optional "cors_error_status" "corsErrorStatus"
            (.one (.ref "network" "CorsErrorStatus")) ] },
    { name := "LoadingFinished", method := "Network.loadingFinished",
      fields :=
        [ .required "request_id" "requestId" (.one (.ref "network" "RequestId")),
          .required "timestamp" "timestamp" (.one (.ref "network" "MonotonicTime")),
          .required "encoded_data_length" "encodedDataLength" (.one .number),
          .optional "should_report_corb_blocking" "shouldReportCorbBlocking" (.one .boolean) ] },
    { name := "RequestIntercepted", method := "Network.requestIntercepted", deprecated := true,
      fields :=
        [ .required "interception_id" "interceptionId" (.one (.ref "network" "InterceptionId")),
          .required "request" "request" (.one (.ref "network" "Request")),
          .required "frame_id" "frameId" (.one (.ref "page" "FrameId")),
          .required "resource_type" "resourceType" (.one (.ref "network" "ResourceType")),
          .required "is_navigation_request" "isNavigationRequest" (.one .boolean),
          .optional "is_download" "isDownload" (.one .boolean),
          .optional "redirect_url" "redirectUrl" (.one .text),
          .optional "auth_challenge" "authChallenge" (.one (.ref "network" "AuthChallenge")),
          .optional "response_error_reason" "responseErrorReason"
            (.one (.ref "network" "ErrorReason")),
          .optional "response_status_code" "responseStatusCode" (.one .integer),
          .optional "response_headers" "responseHeaders" (.one (.ref "network" "Headers")),
          .optional "request_id" "requestId" (.one (.ref "network" "RequestId")) ] },
    { name := "RequestServedFromCache", method := "Network.requestServedFromCache",
      fields :=
        [ .required "request_id" "requestId" (.one (.ref "network" "RequestId")) ] },
    { name := "RequestWillBeSent", method := "Network.requestWillBeSent",
      fields :=
        [ .required "request_id" "requestId" (.one (.ref "network" "RequestId")),
          .required "loader_id" "loaderId" (.one (.ref "network" "LoaderId")),
          .required "document_url" "documentURL" (.one .text),
          .required "request" "request" (.one (.ref "network" "Request")),
          .required "timestamp" "timestamp" (.one (.ref "network" "MonotonicTime")),
          .required "wall_time" "wallTime" (.one (.ref "network" "TimeSinceEpoch")),
          .required "initiator" "initiator" (.one (.ref "network" "Initiator")),
          .optional "redirect_has_extra_info" "redirectHasExtraInfo" (.one .boolean),
          .optional "redirect_response" "redirectResponse" (.one (.ref "network" "Response")),
          .optional "type_" "type" (.one (.ref "network" "ResourceType")),
          .optional "frame_id" "frameId" (.one (.ref "page" "FrameId")),
          .optional "has_user_gesture" "hasUserGesture" (.one .boolean) ] },
    { name := "ResourceChangedPriority", method := "Network.resourceChangedPriority",
      fields :=
        [ .required "request_id" "requestId" (.one (.ref "network" "RequestId")),
          .required "new_priority" "newPriority" (.one (.ref "network" "ResourcePriority")),
          .required "timestamp" "timestamp" (.one (.ref "network" "MonotonicTime")) ] },
    { name := "SignedExchangeReceived", method := "Network.signedExchangeReceived",
      fields :=
        [ .required "request_id" "requestId" (.one (.ref "network" "RequestId")),
          .required "info" "info" (.one (.ref "network" "SignedExchangeInfo")) ] },
    { name := "ResponseReceived", method := "Network.responseReceived",
      fields :=
        [ .required "request_id" "requestId" (.one (.ref "network" "RequestId")),
          .required "loader_id" "loaderId" (.one (.ref "network" "LoaderId")),
          .required "timestamp" "timestamp" (.one (.ref "network" "MonotonicTime")),
          .required "type_" "type" (.one (.ref "network" "ResourceType")),
          .required "response" "response" (.one (.ref "network" "Response")),
          .optional "has_extra_info" "hasExtraInfo" (.one .boolean),
          .optional "frame_id" "frameId" (.one (.ref "page" "FrameId")) ] },
    { name := "WebSocketClosed", method := "Network.webSocketClosed",
      fields :=
        [ .required "request_id" "requestId" (.one (.ref "network" "RequestId")),
          .required "timestamp" "timestamp" (.one (.ref "network" "MonotonicTime")) ] },
    { name := "WebSocketCreated", method := "Network.webSocketCreated",
      fields :=
        [ .required "request_id" "requestId" (.one (.ref "network" "RequestId")),
          .required "url" "url" (.one .text),
          .optional "initiator" "initiator" (.one (.ref "network" "Initiator")) ] },
    { name := "WebSocketFrameError", method := "Network.webSocketFrameError",
      fields :=
        [ .required "request_id" "requestId" (.one (.ref "network" "RequestId")),
          .required "timestamp" "timestamp" (.one (.ref "network" "MonotonicTime")),
          .required "error_message" "errorMessage" (.one .text) ] },
    { name := "WebSocketFrameReceived", method := "Network.webSocketFrameReceived",
      fields :=
        [ .required "request_id" "requestId" (.one (.ref "network" "RequestId")),
          .required "timestamp" "timestamp" (.one (.ref "network" "MonotonicTime")),
          .required "response" "response" (.one (.ref "network" "WebSocketFrame")) ] },
    { name := "WebSocketFrameSent", method := "Network.webSocketFrameSent",
      fields :=
        [ .required "request_id" "requestId" (.one (.ref "network" "RequestId")),
          .required "timestamp" "timestamp" (.one (.ref "network" "MonotonicTime")),
          .required "response" "response" (.one (.ref "network" "WebSocketFrame")) ] },
    { name := "WebSocketHandshakeResponseReceived",
      method := "Network.webSocketHandshakeResponseReceived",
      fields :=
        [ .required "request_id" "requestId" (.one (.ref "network" "RequestId")),
          .required "timestamp" "timestamp" (.one (.ref "network" "MonotonicTime")),
          .required "response" "response" (.one (.ref "network" "WebSocketResponse")) ] },
    { name := "WebSocketWillSendHandshakeRequest",
      method := "Network.webSocketWillSendHandshakeRequest",
      fields :=
        [ .required "request_id" "requestId" (.one (.ref "network" "RequestId")),
          .required "timestamp" "timestamp" (.one (.ref "network" "MonotonicTime")),
          .required "wall_time" "wallTime" (.one (.ref "network" "TimeSinceEpoch")),
          .required "request" "request" (.one (.ref "network" "WebSocketRequest")) ] },
    { name := "WebTransportCreated", method := "Network.webTransportCreated",
      fields :=
        [ .required "transport_id" "transportId" (.one (.ref "network" "RequestId")),
          .required "url" "url" (.one .text),
          .required "timestamp" "timestamp" (.one (.ref "network" "MonotonicTime")),
          .optional "initiator" "initiator" (.one (.ref "network" "Initiator")) ] },
    { name := "WebTransportConnectionEstablished",
      method := "Network.webTransportConnectionEstablished",
      fields :=
        [ .required "transport_id" "transportId" (.one (.ref "network" "RequestId")),
          .required "timestamp" "timestamp" (.one (.ref "network" "MonotonicTime")) ] },
    { name := "WebTransportClosed", method := "Network.webTransportClosed",
      fields :=
        [ .required "transport_id" "transportId" (.one (.ref "network" "RequestId")),
          .required "timestamp" "timestamp" (.one (.ref "network" "MonotonicTime")) ] },
    { name := "RequestWillBeSentExtraInfo", method := "Network.requestWillBeSentExtraInfo",
      fields :=
        [ .required "request_id" "requestId" (.one (.ref "network" "RequestId")),
          .required "associated_cookies" "associatedCookies"
            (.many (.ref "network" "BlockedCookieWithReason")),
          .required "headers" "headers" (.one (.ref "network" "Headers")),
          .required "connect_timing" "connectTiming" (.one (.ref "network" "ConnectTiming")),
          .optional "client_security_state" "clientSecurityState"
            (.one (.ref "network" "ClientSecurityState")) ] },
    { name := "ResponseReceivedExtraInfo", method := "Network.responseReceivedExtraInfo",
      fields :=
        [ .required "request_id" "requestId" (.one (.ref "network" "RequestId")),
          .required "blocked_cookies" "blockedCookies"
            (.many (.ref "network" "BlockedSetCookieWithReason")),
          .required "headers" "headers" (.one (.ref "network" "Headers")),
          .required "resource_ip_address_space" "resourceIPAddressSpace"
            (.one (.ref "network" "IPAddressSpace")),
          .required "status_code" "statusCode" (.one .integer),
          .optional "headers_text" "headersText" (.one .text) ] },
    { name := "TrustTokenOperationDone", method := "Network.trustTokenOperationDone",
      fields :=
        [ .required "status" "status" (.one .text),
          .required "type_" "type" (.one (.ref "network" "TrustTokenOperationType")),
          .required "request_id" "requestId" (.one (.ref "network" "RequestId")),
          .optional "top_level_origin" "topLevelOrigin" (.one .text),
          .optional "issuer_origin" "issuerOrigin" (.one .text),
          .optional "issued_token_count" "issuedTokenCount" (.one .integer) ] },
    { name := "SubresourceWebBundleMetadataReceived",
      method := "Network.subresourceWebBundleMetadataReceived",
      fields :=
        [ .required "request_id" "requestId" (.one (.ref "network" "RequestId")),
          .required "urls" "urls" (.many .text) ] },
    { name := "SubresourceWebBundleMetadataError",
      method := "Network.subresourceWebBundleMetadataError",
      fields :=
        [ .required "request_id" "requestId" (.one (.ref "network" "RequestId")),
          .required "error_message" "errorMessage" (.one .text) ] },
    { name := "SubresourceWebBundleInnerResponseParsed",
      method := "Network.subresourceWebBundleInnerResponseParsed",
      fields :=
        [ .required "inner_request_id" "innerRequestId" (.one (.ref "network" "RequestId")),
          .required "inner_request_url" "innerRequestURL" (.one .text),
          .optional "bundle_request_id" "bundleRequestId" (.one (.ref "network" "RequestId")) ] },
    { name := "SubresourceWebBundleInnerResponseError",
      method := "Network.subresourceWebBundleInnerResponseError",
      fields :=
        [ .required "inner_request_id" "innerRequestId" (.one (.ref "network" "RequestId")),
          .required "inner_request_url" "innerRequestURL" (.one .text),
          .required "error_message" "errorMessage" (.one .text),
          .optional "bundle_request_id" "bundleRequestId" (.one (.ref "network" "RequestId")) ] },
    { name := "ReportingApiReportAdded", method := "Network.reportingApiReportAdded",
      fields :=
        [ .required "report" "report" (.one (.ref "network" "ReportingApiReport")) ] },
    { name := "ReportingApiReportUpdated", method := "Network.reportingApiReportUpdated",
      fields :=
        [ .required "report" "report" (.one (.ref "network" "ReportingApiReport")) ] },
    { name := "ReportingApiEndpointsChangedForOrigin",
      method := "Network.reportingApiEndpointsChangedForOrigin",
      fields :=
        [ .required "origin" "origin" (.one .text),
          .required "endpoints" "endpoints" (.many (.ref "network" "ReportingApiEndpoint")) ] } ]

def domain : DevTools.Domain where
  name := "Network"
  scope := "network"
  types := types
  commands := commands
  events := events

end DevTools.Domain.Network
