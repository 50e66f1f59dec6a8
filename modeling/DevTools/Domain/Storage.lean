import DevTools.Schema

namespace DevTools.Domain.Storage

def types : List Declaration :=
  [ .enumeration "StorageType"
      [ ("APPCACHE", "appcache"), ("COOKIES", "cookies"), ("FILE_SYSTEMS", "file_systems"),
        ("INDEXEDDB", "indexeddb"), ("LOCAL_STORAGE", "local_storage"),
        ("SHADER_CACHE", "shader_cache"), ("WEBSQL", "websql"),
        ("SERVICE_WORKERS", "service_workers"), ("CACHE_STORAGE", "cache_storage"),
        ("ALL_", "all"), ("OTHER", "other") ],
    .record "UsageForType"
      [ .required "storage_type" "storageType" (.one (.ref "storage" "StorageType")),
        .required "usage" "usage" (.one .number) ],
    .record "TrustTokens"
      [ .required "issuer_origin" "issuerOrigin" (.one .text),
        .required "count" "count" (.one .number) ] ]

def commands : List Command :=
  [ { name := "clear_data_for_origin", method := "Storage.clearDataForOrigin",
      parameters :=
        [ .required "origin" "origin" (.one .text),
          .required "storage_types" "storageTypes" (.one .text) ],
      returns := [] },
    { name := "get_cookies", method := "Storage.getCookies",
      parameters :=
        [ .optional "browser_context_id" "browserContextId"
            (.one (.ref "browser" "BrowserContextID")) ],
      returns :=
        [ .required "cookies" (.many (.ref "network" "Cookie")) ] },
    { name := "set_cookies", method := "Storage.setCookies",
      parameters :=
        [ .required "cookies" "cookies" (.many (.ref "network" "CookieParam")),
          .optional "browser_context_id" "browserContextId"
            (.one (.ref "browser" "BrowserContextID")) ],
      returns := [] },
    { name := "clear_cookies", method := "Storage.clearCookies",
      parameters :=
        [ .optional "browser_context_id" "browserContextId"
            (.one (.ref "browser" "BrowserContextID")) ],
      returns := [] },
    { name := "get_usage_and_quota", method := "Storage.getUsageAndQuota",
      parameters :=
        [ .required "origin" "origin" (.one .text) ],
      returns :=
        [ .required "usage" (.one .number),
          .required "quota" (.one .number),
          .required "overrideActive" (.one .boolean),
          .required "usageBreakdown" (.many (.ref "storage" "UsageForType")) ] },
    { name := "override_quota_for_origin", method := "Storage.overrideQuotaForOrigin",
      parameters :=
        [ .required "origin" "origin" (.one .text),
          .optional "quota_size" "quotaSize" (.one .number) ],
      returns := [] },
    { name := "track_cache_storage_for_origin", method := "Storage.trackCacheStorageForOrigin",
      parameters :=
        [ .required "origin" "origin" (.one .text) ],
      returns := [] },
    { name := "track_indexed_db_for_origin", method := "Storage.trackIndexedDBForOrigin",
      parameters :=
        [ .required "origin" "origin" (.one .text) ],
      returns := [] },
    { name := "untrack_cache_storage_for_origin",
      method := "Storage.untrackCacheStorageForOrigin",
      parameters :=
        [ .required "origin" "origin" (.one .text) ],
      returns := [] },
    { name := "untrack_indexed_db_for_origin", method := "Storage.untrackIndexedDBForOrigin",
      parameters :=
        [ .required "origin" "origin" (.one .text) ],
      returns := [] },
    { name := "get_trust_tokens", method := "Storage.getTrustTokens",
      parameters := [],
      returns :=
        [ .required "tokens" (.many (.ref "storage" "TrustTokens")) ] },
    { name := "clear_trust_tokens", method := "Storage.clearTrustTokens",
      parameters :=
        [ .required "issuer_origin" "issuerOrigin" (.one .text) ],
      returns :=
        [ .required "didDeleteTokens" (.one .boolean) ] } ]

def events : List Event :=
  [ { name := "CacheStorageContentUpdated", method := "Storage.cacheStorageContentUpdated",
      fields :=
        [ .required "origin" "origin" (.one .text),
          .required "cache_name" "cacheName" (.one .text) ] },
    { name := "CacheStorageListUpdated", method := "Storage.cacheStorageListUpdated",
      fields :=
        [ .required "origin" "origin" (.one .text) ] },
    { name := "IndexedDBContentUpdated", method := "Storage.indexedDBContentUpdated",
      fields :=
        [ .required "origin" "origin" (.one .text),
          .required "database_name" "databaseName" (.one .text),
          .required "object_store_name" "objectStoreName" (.one .text) ] },
    { name := "IndexedDBListUpdated", method := "Storage.indexedDBListUpdated",
      fields :=
        [ .required "origin" "origin" (.one .text) ] } ]

def domain : DevTools.Domain where
  name := "Storage"
  scope := "storage"
  types := types
  commands := commands
  events := events

end DevTools.Domain.Storage
