import DevTools.Schema

namespace DevTools.Domain.Fetch

def types : List Declaration :=
  [ .wrapper "RequestId" .text,
    .enumeration "RequestStage" [("REQUEST", "Request"), ("RESPONSE", "Response")],
    .record "RequestPattern"
      [ .optional "url_pattern" "urlPattern" (.one .text),
        .optional "resource_type" "resourceType" (.one (.ref "network" "ResourceType")),
        .optional "request_stage" "requestStage" (.one (.ref "fetch" "RequestStage")) ],
    .record "HeaderEntry"
      [ .required "name" "name" (.one .text),
        .required "value" "value" (.one .text) ],
    .record "AuthChallenge"
      [ .required "origin" "origin" (.one .text),
        .required "scheme" "scheme" (.one .text),
        .required "realm" "realm" (.one .text),
        .optional "source" "source" (.one .text) ],
    .record "AuthChallengeResponse"
      [ .required "response" "response" (.one .text),
        .optional "username" "username" (.one .text),
        .optional "password" "password" (.one .text) ] ]

def commands : List Command :=
  [ { name := "disable", method := "Fetch.disable",
      parameters := [],
      returns := [] },
    { name := "enable", method := "Fetch.enable",
      parameters :=
        [ .optional "patterns" "patterns" (.many (.ref "fetch" "RequestPattern")),
          .optional "handle_auth_requests" "handleAuthRequests" (.one .boolean) ],
      returns := [] },
    { name := "fail_request", method := "Fetch.failRequest",
      parameters :=
        [ .required "request_id" "requestId" (.one (.ref "fetch" "RequestId")),
          .required "error_reason" "errorReason" (.one (.ref "network" "ErrorReason")) ],
      returns := [] },
    { name := "fulfill_request", method := "Fetch.fulfillRequest",
      parameters :=
        [ .required "request_id" "requestId" (.one (.ref "fetch" "RequestId")),
          .required "response_code" "responseCode" (.one .integer),
          .optional "response_headers" "responseHeaders" (.many (.ref "fetch" "HeaderEntry")),
          .optional "binary_response_headers" "binaryResponseHeaders" (.one .text),
          .optional "body" "body" (.one .text),
          .optional "response_phrase" "responsePhrase" (.one .text) ],
      returns := [] },
    { name := "continue_request", method := "Fetch.continueRequest",
      parameters :=
        [ .required "request_id" "requestId" (.one (.ref "fetch" "RequestId")),
          .optional "url" "url" (.one .text),
          .optional "method" "method" (.one .text),
          .optional "post_data" "postData" (.one .text),
          .optional "headers" "headers" (.many (.ref "fetch" "HeaderEntry")),
          .optional "intercept_response" "interceptResponse" (.one .boolean) ],
      returns := [] },
    { name := "continue_with_auth", method := "Fetch.continueWithAuth",
      parameters :=
        [ .required "request_id" "requestId" (.one (.ref "fetch" "RequestId")),
          .required "auth_challenge_response" "authChallengeResponse"
            (.one (.ref "fetch" "AuthChallengeResponse")) ],
      returns := [] },
    { name := "continue_response", method := "Fetch.continueResponse",
      parameters :=
        [ .required "request_id" "requestId" (.one (.ref "fetch" "RequestId")),
          .optional "response_code" "responseCode" (.one .integer),
          .optional "response_phrase" "responsePhrase" (.one .text),
          .optional "response_headers" "responseHeaders" (.many (.ref "fetch" "HeaderEntry")),
          .optional "binary_response_headers" "binaryResponseHeaders" (.one .text) ],
      returns := [] },
    { name := "get_response_body", method := "Fetch.getResponseBody",
      parameters :=
        [ .required "request_id" "requestId" (.one (.ref "fetch" "RequestId")) ],
      returns :=
        [ .required "body" (.one .text),
          .required "base64Encoded" (.one .boolean) ] },
    { name := "take_response_body_as_stream", method := "Fetch.takeResponseBodyAsStream",
      parameters :=
        [ .required "request_id" "requestId" (.one (.ref "fetch" "RequestId")) ],
      returns :=
        [ .required "stream" (.one (.ref "io" "StreamHandle")) ] } ]

def events : List Event :=
  [ { name := "RequestPaused", method := "Fetch.requestPaused",
      fields :=
        [ .required "request_id" "requestId" (.one (.ref "fetch" "RequestId")),
          .required "request" "request" (.one (.ref "network" "Request")),
          .required "frame_id" "frameId" (.one (.ref "page" "FrameId")),
          .required "resource_type" "resourceType" (.one (.ref "network" "ResourceType")),
          .optional "response_error_reason" "responseErrorReason"
            (.one (.ref "network" "ErrorReason")),
          .optional "response_status_code" "responseStatusCode" (.one .integer),
          .optional "response_status_text" "responseStatusText" (.one .text),
          .optional "response_headers" "responseHeaders" (.many (.ref "fetch" "HeaderEntry")),
          .optional "network_id" "networkId" (.one (.ref "fetch" "RequestId")) ] },
    { name := "AuthRequired", method := "Fetch.authRequired",
      fields :=
        [ .required "request_id" "requestId" (.one (.ref "fetch" "RequestId")),
          .required "request" "request" (.one (.ref "network" "Request")),
          .required "frame_id" "frameId" (.one (.ref "page" "FrameId")),
          .required "resource_type" "resourceType" (.one (.ref "network" "ResourceType")),
          .required "auth_challenge" "authChallenge" (.one (.ref "fetch" "AuthChallenge")) ] } ]

def domain : DevTools.Domain where
  name := "Fetch"
  scope := "fetch"
  types := types
  commands := commands
  events := events

end DevTools.Domain.Fetch
