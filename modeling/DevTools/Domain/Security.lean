import DevTools.Schema

namespace DevTools.Domain.Security

def types : List Declaration :=
  [ .wrapper "CertificateId" .integer,
    .enumeration "MixedContentType"
      [ ("BLOCKABLE", "blockable"), ("OPTIONALLY_BLOCKABLE", "optionally-blockable"),
        ("NONE", "none") ],
    .enumeration "SecurityState"
      [ ("UNKNOWN", "unknown"), ("NEUTRAL", "neutral"), ("INSECURE", "insecure"),
        ("SECURE", "secure"), ("INFO", "info"), ("INSECURE_BROKEN", "insecure-broken") ],
    .record "CertificateSecurityState"
      [ .required "protocol" "protocol" (.one .text),
        .required "key_exchange" "keyExchange" (.one .text),
        .required "cipher" "cipher" (.one .text),
        .required "certificate" "certificate" (.many .text),
        .required "subject_name" "subjectName" (.one .text),
        .required "issuer" "issuer" (.one .text),
        .required "valid_from" "validFrom" (.one (.ref "network" "TimeSinceEpoch")),
        .required "valid_to" "validTo" (.one (.ref "network" "TimeSinceEpoch")),
        .required "certificate_has_weak_signature" "certificateHasWeakSignature"
          (.one .boolean),
        .required "certificate_has_sha1_signature" "certificateHasSha1Signature"
          (.one .boolean),
        .required "modern_ssl" "modernSSL" (.one .boolean),
        .required "obsolete_ssl_protocol" "obsoleteSslProtocol" (.one .boolean),
        .required "obsolete_ssl_key_exchange" "obsoleteSslKeyExchange" (.one .boolean),
        .required "obsolete_ssl_cipher" "obsoleteSslCipher" (.one .boolean),
        .required "obsolete_ssl_signature" "obsoleteSslSignature" (.one .boolean),
        .optional "key_exchange_group" "keyExchangeGroup" (.one .text),
        .optional "mac" "mac" (.one .text),
        .optional "certificate_network_error" "certificateNetworkError" (.one .text) ],
    .enumeration "SafetyTipStatus"
      [ ("BAD_REPUTATION", "badReputation"), ("LOOKALIKE", "lookalike") ],
    .record "SafetyTipInfo"
      [ .required "safety_tip_status" "safetyTipStatus"
          (.one (.ref "security" "SafetyTipStatus")),
        .optional "safe_url" "safeUrl" (.one .text) ],
    .record "VisibleSecurityState"
      [ .required "security_state" "securityState" (.one (.ref "security" "SecurityState")),
        .required "security_state_issue_ids" "securityStateIssueIds" (.many .text),
        .optional "certificate_security_state" "certificateSecurityState"
          (.one (.ref "security" "CertificateSecurityState")),
        .optional "safety_tip_info" "safetyTipInfo" (.one (.ref "security" "SafetyTipInfo")) ],
    .record "SecurityStateExplanation"
      [ .required "security_state" "securityState" (.one (.ref "security" "SecurityState")),
        .required "title" "title" (.one .text),
        .required "summary" "summary" (.one .text),
        .required "description" "description" (.one .text),
        .required "mixed_content_type" "mixedContentType"
          (.one (.ref "security" "MixedContentType")),
        .required "certificate" "certificate" (.many .text),
        .optional "recommendations" "recommendations" (.many .text) ],
    .record "InsecureContentStatus"
      [ .required "ran_mixed_content" "ranMixedContent" (.one .boolean),
        .required "displayed_mixed_content" "displayedMixedContent" (.one .boolean),
        .required "contained_mixed_form" "containedMixedForm" (.one .boolean),
        .required "ran_content_with_cert_errors" "ranContentWithCertErrors" (.one .boolean),
        .required "displayed_content_with_cert_errors" "displayedContentWithCertErrors"
          (.one .boolean),
        .required "ran_insecure_content_style" "ranInsecureContentStyle"
          (.one (.ref "security" "SecurityState")),
        .required "displayed_insecure_content_style" "displayedInsecureContentStyle"
          (.one (.ref "security" "SecurityState")) ],
    .enumeration "CertificateErrorAction" [("CONTINUE", "continue"), ("CANCEL", "cancel")] ]

def commands : List Command :=
  [ { name := "disable", method := "Security.disable",
      parameters := [],
      returns := [] },
    { name := "enable", method := "Security.enable",
      parameters := [],
      returns := [] },
    { name := "set_ignore_certificate_errors", method := "Security.setIgnoreCertificateErrors",
      parameters :=
        [ .required "ignore" "ignore" (.one .boolean) ],
      returns := [] },
    { name := "handle_certificate_error",
      method := "Security.handleCertificateError", deprecated := true,
      parameters :=
        [ .required "event_id" "eventId" (.one .integer),
          .required "action" "action" (.one (.ref "security" "CertificateErrorAction")) ],
      returns := [] },
    { name := "set_override_certificate_errors",
      method := "Security.setOverrideCertificateErrors", deprecated := true,
      parameters :=
        [ .required "override" "override" (.one .boolean) ],
      returns := [] } ]

def events : List Event :=
  [ { name := "CertificateError", method := "Security.certificateError", deprecated := true,
      fields :=
        [ .required "event_id" "eventId" (.one .integer),
          .required "error_type" "errorType" (.one .text),
          .required "request_url" "requestURL" (.one .text) ] },
    { name := "VisibleSecurityStateChanged", method := "Security.visibleSecurityStateChanged",
      fields :=
        [ .required "visible_security_state" "visibleSecurityState"
            (.one (.ref "security" "VisibleSecurityState")) ] },
    { name := "SecurityStateChanged",
      method := "Security.securityStateChanged", deprecated := true,
      fields :=
        [ .required "security_state" "securityState" (.one (.ref "security" "SecurityState")),
          .required "scheme_is_cryptographic" "schemeIsCryptographic" (.one .boolean),
          .required "explanations" "explanations"
            (.many (.ref "security" "SecurityStateExplanation")),
          .required "insecure_content_status" "insecureContentStatus"
            (.one (.ref "security" "InsecureContentStatus")),
          .optional "summary" "summary" (.one .text) ] } ]

def domain : DevTools.Domain where
  name := "Security"
  scope := "security"
  types := types
  commands := commands
  events := events

end DevTools.Domain.Security
