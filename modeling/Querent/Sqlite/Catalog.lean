import Querent.Database.Statement
import Querent.Sqlite.Script
import Querent.Text.Case

/-! The statements that read the catalog of SQLite, and what a store answers to them. A file holds one
database, whatever its name. -/
namespace Querent.Sqlite
open Database (Cells)

def tablesStatement : Database.Statement where
  sql := "SELECT name FROM sqlite_master "
    ++ "WHERE type = 'table' AND name NOT LIKE 'sqlite_%' ORDER BY name"
  parameters := []

def columnsStatement (table : String) : Database.Statement where
  sql := "SELECT name, type FROM pragma_table_info(?1) ORDER BY cid"
  parameters := [table]

def mapper : Database.Mapper where
  tables _ := tablesStatement
  columns _ := columnsStatement
  tableName := "name"
  columnName := "name"
  columnType := "type"
  spell := Text.lowercased

def Value.text? : Value → Option String
  | .text s => some s
  | _ => none

namespace Store

def columnLister : String := "pragma_table_info"

def columnRows (s : Store) (table : String) : Except Fault (List (Cells (Option String))) :=
  if (s.table? columnLister).isSome then .error (.notFunction columnLister)
  else
    let columns := ((s.table? table).map (·.columns)).getD []
    .ok ((columns.filter (!·.generated)).map fun c => [("name",some c.name), ("type",some c.type)])

def textRows (s : Store) (sql : String) : Except Fault (List (Cells (Option String))) := do
  let rows ← (Script.run s sql).mapM id
  return rows.map fun row => row.map fun cell => (cell.1,cell.2.text?)

def answer (s : Store) (statement : Database.Statement) :
    Except Database.Fault (List (Cells (Option String))) :=
  let rows := match statement.parameters with
    | [] => s.textRows statement.sql
    | table :: _ => s.columnRows table
  rows.mapError fun fault => .reported fault.message

end Store
end Querent.Sqlite
