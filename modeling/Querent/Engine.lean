import Querent.Text.Blank
import Querent.Text.Case

/-! The kinds of databases that can be attached, and the tags that select them. -/
namespace Querent

inductive Engine where
  | postgres
  | mysql
  | sqlite
  deriving DecidableEq, Repr

namespace Engine

def all : List Engine := [.postgres, .mysql, .sqlite]

def name : Engine → String
  | .postgres => "postgres"
  | .mysql => "mysql"
  | .sqlite => "sqlite"

def tags : Engine → List String
  | .postgres => ["postgres", "postgresql", "pg"]
  | .mysql => ["mysql", "mariadb"]
  | .sqlite => ["sqlite", "sqlite3"]

def ofTag? (tag : String) : Option Engine :=
  let tag := Text.lowercased (Text.trimmed tag)
  all.find? fun engine => engine.tags.contains tag

def ofName? (name : String) : Option Engine := all.find? fun engine => engine.name = name

example : ofTag? " PG\n" = some .postgres := by decide +kernel
example : ofTag? "oracle" = none := by decide +kernel

end Engine
end Querent
