import DevTools.Schema

namespace DevTools.Domain.CacheStorage

def types : List Declaration :=
  [ .wrapper "CacheId" .text,
    .enumeration "CachedResponseType"
      [ ("BASIC", "basic"), ("CORS", "cors"), ("DEFAULT", "default"), ("ERROR", "error"),
        ("OPAQUE_RESPONSE", "opaqueResponse"), ("OPAQUE_REDIRECT", "opaqueRedirect") ],
    .record "DataEntry"
      [ .required "request_url" "requestURL" (.one .text),
        .required "request_method" "requestMethod" (.one .text),
        .required "request_headers" "requestHeaders" (.many (.ref "cache_storage" "Header")),
        .required "response_time" "responseTime" (.one .number),
        .required "response_status" "responseStatus" (.one .integer),
        .required "response_status_text" "responseStatusText" (.one .text),
        .required "response_type" "responseType"
          (.one (.ref "cache_storage" "CachedResponseType")),
        .required "response_headers" "responseHeaders" (.many (.ref "cache_storage" "Header")) ],
    .record "Cache"
      [ .required "cache_id" "cacheId" (.one (.ref "cache_storage" "CacheId")),
        .required "security_origin" "securityOrigin" (.one .text),
        .required "cache_name" "cacheName" (.one .text) ],
    .record "Header"
      [ .required "name" "name" (.one .text),
        .required "value" "value" (.one .text) ],
    .record "CachedResponse"
      [ .required "body" "body" (.one .text) ] ]

def commands : List Command :=
  [ { name := "delete_cache", method := "CacheStorage.deleteCache",
      parameters :=
        [ .required "cache_id" "cacheId" (.one (.ref "cache_storage" "CacheId")) ],
      returns := [] },
    { name := "delete_entry", method := "CacheStorage.deleteEntry",
      parameters :=
        [ .required "cache_id" "cacheId" (.one (.ref "cache_storage" "CacheId")),
          .required "request" "request" (.one .text) ],
      returns := [] },
    { name := "request_cache_names", method := "CacheStorage.requestCacheNames",
      parameters :=
        [ .required "security_origin" "securityOrigin" (.one .text) ],
      returns :=
        [ .required "caches" (.many (.ref "cache_storage" "Cache")) ] },
    { name := "request_cached_response", method := "CacheStorage.requestCachedResponse",
      parameters :=
        [ .required "cache_id" "cacheId" (.one (.ref "cache_storage" "CacheId")),
          .required "request_url" "requestURL" (.one .text),
          .required "request_headers" "requestHeaders" (.many (.ref "cache_storage" "Header")) ],
      returns :=
        [ .required "response" (.one (.ref "cache_storage" "CachedResponse")) ] },
    { name := "request_entries", method := "CacheStorage.requestEntries",
      parameters :=
        [ .required "cache_id" "cacheId" (.one (.ref "cache_storage" "CacheId")),
          .optional "skip_count" "skipCount" (.one .integer),
          .optional "page_size" "pageSize" (.one .integer),
          .optional "path_filter" "pathFilter" (.one .text) ],
      returns :=
        [ .required "cacheDataEntries" (.many (.ref "cache_storage" "DataEntry")),
          .required "returnCount" (.one .number) ] } ]

def events : List Event := []

def domain : DevTools.Domain where
  name := "CacheStorage"
  scope := "cache_storage"
  types := types
  commands := commands
  events := events

end DevTools.Domain.CacheStorage
