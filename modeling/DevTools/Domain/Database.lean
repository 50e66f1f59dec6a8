import DevTools.Schema

namespace DevTools.Domain.Database

def types : List Declaration :=
  [ .wrapper "DatabaseId" .text,
    .record "Database"
      [ .required "id_" "id" (.one (.ref "database" "DatabaseId")),
        .required "domain" "domain" (.one .text),
        .required "name" "name" (.one .text),
        .required "version" "version" (.one .text) ],
    .record "Error"
      [ .required "message" "message" (.one .text),
        .required "code" "code" (.one .integer) ] ]

def commands : List Command :=
  [ { name := "disable", method := "Database.disable",
      parameters := [],
      returns := [] },
    { name := "enable", method := "Database.enable",
      parameters := [],
      returns := [] },
    { name := "execute_sql", method := "Database.executeSQL",
      parameters :=
        [ .required "database_id" "databaseId" (.one (.ref "database" "DatabaseId")),
          .required "query" "query" (.one .text) ],
      returns :=
        [ .optional "columnNames" (.many .text),
          .optional "values" (.many .any),
          .optional "sqlError" (.one (.ref "database" "Error")) ] },
    { name := "get_database_table_names", method := "Database.getDatabaseTableNames",
      parameters :=
        [ .required "database_id" "databaseId" (.one (.ref "database" "DatabaseId")) ],
      returns :=
        [ .required "tableNames" (.many .text) ] } ]

def events : List Event :=
  [ { name := "AddDatabase", method := "Database.addDatabase",
      fields :=
        [ .required "database" "database" (.one (.ref "database" "Database")) ] } ]

def domain : DevTools.Domain where
  name := "Database"
  scope := "database"
  types := types
  commands := commands
  events := events

end DevTools.Domain.Database
