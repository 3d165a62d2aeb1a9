import Querent.Database.Statement

/-! The statements that read the catalog of PostgreSQL. Only the tables of one schema count, whatever
the name of the database. -/
namespace Querent.Postgres
open Database (Statement Mapper)

def tablesStatement : Statement where
  sql := "select table_name::text as table_name from information_schema.tables "
    ++ "where table_schema = 'public' and table_type = 'BASE TABLE' order by table_name"
  parameters := []

def columnsStatement (table : String) : Statement where
  sql := "select column_name::text as column_name, data_type::text as data_type "
    ++ "from information_schema.columns "
    ++ "where table_schema = 'public' and table_name = $1 order by ordinal_position"
  parameters := [table]

def mapper : Mapper where
  tables _ := tablesStatement
  columns _ := columnsStatement
  tableName := "table_name"
  columnName := "column_name"
  columnType := "data_type"
  spell := id

end Querent.Postgres
