import Querent.Database.Statement

/-! The statements that read the catalog of MySQL, where a database is a schema. Names are asked for as
text, since the catalog may hold them as octets. -/
namespace Querent.MySql
open Database (Statement Mapper)

def tablesStatement (database : String) : Statement where
  sql := "SELECT CAST(TABLE_NAME AS CHAR) AS table_name FROM INFORMATION_SCHEMA.TABLES "
    ++ "WHERE TABLE_SCHEMA = ? AND TABLE_TYPE = 'BASE TABLE' ORDER BY TABLE_NAME"
  parameters := [database]

def columnsStatement (database table : String) : Statement where
  sql := "SELECT CAST(COLUMN_NAME AS CHAR) AS column_name, CAST(DATA_TYPE AS CHAR) AS data_type "
    ++ "FROM INFORMATION_SCHEMA.COLUMNS "
    ++ "WHERE TABLE_SCHEMA = ? AND TABLE_NAME = ? ORDER BY ORDINAL_POSITION"
  parameters := [database, table]

def mapper : Mapper where
  tables := tablesStatement
  columns := columnsStatement
  tableName := "table_name"
  columnName := "column_name"
  columnType := "data_type"
  spell := id

end Querent.MySql
