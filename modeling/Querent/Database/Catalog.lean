import Querent.Database.Fault
import Querent.Schema

/-! Reading a schema from the catalog of a database. It is read as a whole or not at all. -/
namespace Querent.Database

structure Catalog where
  tables : Except Fault (List String)
  columns : (table : String) → Except Fault (List (String × String))

namespace Catalog

def columnsOf (c : Catalog) (table : String) : Except Fault Columns :=
  (c.columns table).map Dictionary.ofList

def addTables (c : Catalog) : Schema → List String → Except Fault Schema
  | s, [] => .ok s
  | s, table :: rest => do
    let columns ← c.columnsOf table
    addTables c (s.insertTable table columns) rest

def schema (c : Catalog) : Except Fault Schema := do c.addTables .empty (← c.tables)

end Catalog
end Querent.Database
