import Querent.Json.Printer

/-! The rows that a query gave. -/
namespace Querent

abbrev Row := List (String × Json)

structure ResultSet where
  columns : List String
  rows : List Row
  truncated : Bool
  deriving DecidableEq, Repr

namespace ResultSet

def empty : ResultSet := ⟨[],[],false⟩

def size (r : ResultSet) : Nat := r.rows.length

def isEmpty (r : ResultSet) : Bool := r.rows.isEmpty

def rowsToJson (r : ResultSet) : Json := .array (r.rows.map .object)

def text (r : ResultSet) : String := r.rowsToJson.toText

def toJson (r : ResultSet) : Json :=
  .object [("columns",.array (r.columns.map .text)), ("rows",r.rowsToJson),
    ("truncated",.bool r.truncated)]

end ResultSet
end Querent
