import Querent.Database.Catalog
import Querent.Database.Fetch

/-! Catalogs that are read with statements: one for the tables, and one for the columns of each. -/
namespace Querent.Database

structure Statement where
  sql : String
  parameters : List String
  deriving DecidableEq, Repr

def textAt (name : String) (cells : Cells (Option String)) : Except Fault String :=
  match cells.reverse.find? fun cell => cell.1 = name with
  | none => .error (.noColumn name)
  | some (_, none) =>
    .error (.undecodable name "unexpected null; try decoding as an \x60Option\x60")
  | some (_, some text) => .ok text

structure Mapper where
  tables : (database : String) → Statement
  columns : (database table : String) → Statement
  tableName : String
  columnName : String
  columnType : String
  spell : String → String

namespace Mapper

def columnAt (m : Mapper) (cells : Cells (Option String)) : Except Fault (String × String) := do
  return (← textAt m.columnName cells,← textAt m.columnType cells)

def catalog (m : Mapper) (database : String)
    (run : Statement → Except Fault (List (Cells (Option String)))) : Catalog where
  tables := do (← run (m.tables database)).mapM (textAt m.tableName)
  columns table := do
    let reported ← (← run (m.columns database table)).mapM m.columnAt
    return reported.map fun column => (column.1,m.spell column.2)

end Mapper
end Querent.Database
