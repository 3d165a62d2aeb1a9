import Querent.Engine
import Querent.MySql.Value
import Querent.Postgres.Value
import Querent.Sqlite.Value

/-! The values in the rows of each engine. -/
namespace Querent.Database

def Cell : Engine → Type
  | .postgres => Postgres.Value
  | .mysql => MySql.Value
  | .sqlite => Sqlite.Value

def Cell.toJson : {engine : Engine} → Cell engine → Json
  | .postgres, v => Postgres.Value.toJson v
  | .mysql, v => MySql.Value.toJson v
  | .sqlite, v => Sqlite.Value.toJson v

end Querent.Database
