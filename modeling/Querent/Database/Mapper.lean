import Querent.MySql.Catalog
import Querent.Postgres.Catalog
import Querent.Sqlite.Catalog

/-! The mapper of each engine. -/
namespace Querent

def Engine.mapper : Engine → Database.Mapper
  | .postgres => Postgres.mapper
  | .mysql => MySql.mapper
  | .sqlite => Sqlite.mapper

end Querent
