import DevTools.Schema

namespace DevTools.Domain.IndexedDB

def types : List Declaration :=
  [ .record "DatabaseWithObjectStores"
      [ .required "name" "name" (.one .text),
        .required "version" "version" (.one .number),
        .required "object_stores" "objectStores" (.many (.ref "indexed_db" "ObjectStore")) ],
    .record "ObjectStore"
      [ .required "name" "name" (.one .text),
        .required "key_path" "keyPath" (.one (.ref "indexed_db" "KeyPath")),
        .required "auto_increment" "autoIncrement" (.one .boolean),
        .required "indexes" "indexes" (.many (.ref "indexed_db" "ObjectStoreIndex")) ],
    .record "ObjectStoreIndex"
      [ .required "name" "name" (.one .text),
        .required "key_path" "keyPath" (.one (.ref "indexed_db" "KeyPath")),
        .required "unique" "unique" (.one .boolean),
        .required "multi_entry" "multiEntry" (.one .boolean) ],
    .record "Key"
      [ .required "type_" "type" (.one .text),
        .optional "number" "number" (.one .number),
        .optional "string" "string" (.one .text),
        .optional "date" "date" (.one .number),
        .optional "array" "array" (.many (.ref "indexed_db" "Key")) ],
    .record "KeyRange"
      [ .required "lower_open" "lowerOpen" (.one .boolean),
        .required "upper_open" "upperOpen" (.one .boolean),
        .optional "lower" "lower" (.one (.ref "indexed_db" "Key")),
        .optional "upper" "upper" (.one (.ref "indexed_db" "Key")) ],
    .record "DataEntry"
      [ .required "key" "key" (.one (.ref "runtime" "RemoteObject")),
        .required "primary_key" "primaryKey" (.one (.ref "runtime" "RemoteObject")),
        .required "value" "value" (.one (.ref "runtime" "RemoteObject")) ],
    .record "KeyPath"
      [ .required "type_" "type" (.one .text),
        .optional "string" "string" (.one .text),
        .optional "array" "array" (.many .text) ] ]

def commands : List Command :=
  [ { name := "clear_object_store", method := "IndexedDB.clearObjectStore",
      parameters :=
        [ .required "security_origin" "securityOrigin" (.one .text),
          .required "database_name" "databaseName" (.one .text),
          .required "object_store_name" "objectStoreName" (.one .text) ],
      returns := [] },
    { name := "delete_database", method := "IndexedDB.deleteDatabase",
      parameters :=
        [ .required "security_origin" "securityOrigin" (.one .text),
          .required "database_name" "databaseName" (.one .text) ],
      returns := [] },
    { name := "delete_object_store_entries", method := "IndexedDB.deleteObjectStoreEntries",
      parameters :=
        [ .required "security_origin" "securityOrigin" (.one .text),
          .required "database_name" "databaseName" (.one .text),
          .required "object_store_name" "objectStoreName" (.one .text),
          .required "key_range" "keyRange" (.one (.ref "indexed_db" "KeyRange")) ],
      returns := [] },
    { name := "disable", method := "IndexedDB.disable",
      parameters := [],
      returns := [] },
    { name := "enable", method := "IndexedDB.enable",
      parameters := [],
      returns := [] },
    { name := "request_data", method := "IndexedDB.requestData",
      parameters :=
        [ .required "security_origin" "securityOrigin" (.one .text),
          .required "database_name" "databaseName" (.one .text),
          .required "object_store_name" "objectStoreName" (.one .text),
          .required "index_name" "indexName" (.one .text),
          .required "skip_count" "skipCount" (.one .integer),
          .required "page_size" "pageSize" (.one .integer),
          .optional "key_range" "keyRange" (.one (.ref "indexed_db" "KeyRange")) ],
      returns :=
        [ .required "objectStoreDataEntries" (.many (.ref "indexed_db" "DataEntry")),
          .required "hasMore" (.one .boolean) ] },
    { name := "get_metadata", method := "IndexedDB.getMetadata",
      parameters :=
        [ .required "security_origin" "securityOrigin" (.one .text),
          .required "database_name" "databaseName" (.one .text),
          .required "object_store_name" "objectStoreName" (.one .text) ],
      returns :=
        [ .required "entriesCount" (.one .number),
          .required "keyGeneratorValue" (.one .number) ] },
    { name := "request_database", method := "IndexedDB.requestDatabase",
      parameters :=
        [ .required "security_origin" "securityOrigin" (.one .text),
          .required "database_name" "databaseName" (.one .text) ],
      returns :=
        [ .required "databaseWithObjectStores"
            (.one (.ref "indexed_db" "DatabaseWithObjectStores")) ] },
    { name := "request_database_names", method := "IndexedDB.requestDatabaseNames",
      parameters :=
        [ .required "security_origin" "securityOrigin" (.one .text) ],
      returns :=
        [ .required "databaseNames" (.many .text) ] } ]

def events : List Event := []

def domain : DevTools.Domain where
  name := "IndexedDB"
  scope := "indexed_db"
  types := types
  commands := commands
  events := events

end DevTools.Domain.IndexedDB
