/-! The two dialects of SQL in which a query is read. A text has no dialect of its own: the same
characters may be split and grouped in two ways. -/
namespace Querent.Sql

inductive Dialect where
  | postgres
  | mysql
  deriving DecidableEq, Repr

namespace Dialect

def name : Dialect → String
  | .postgres => "PostgreSQL"
  | .mysql => "MySQL"

def isPostgres (d : Dialect) : Bool := d == .postgres

def isMySql (d : Dialect) : Bool := d == .mysql

def startsName (d : Dialect) (c : Char) : Bool :=
  c.isAlpha || c == '_' || 128 ≤ c.toNat || (d.isMySql && (c == '$' || c == '@'))

def continuesName (d : Dialect) (c : Char) : Bool :=
  d.startsName c || c.isDigit || c == '$'

def nameQuote : Dialect → Char
  | .postgres => '"'
  | .mysql => '\x60'

end Dialect
end Querent.Sql
