import Querent.Dictionary
import Querent.Json.Shape

/-! Schemas: what a database looked like when it was attached. A schema is made in one pass and never
patched; attaching again makes a new one. -/
namespace Querent

abbrev Columns := Dictionary String

structure Schema where
  tables : Dictionary Columns
  deriving DecidableEq, Repr

namespace Schema

def empty : Schema := ⟨.empty⟩

instance : Inhabited Schema := ⟨empty⟩

def insertTable (s : Schema) (name : String) (columns : Columns) : Schema :=
  ⟨s.tables.insert name columns⟩

def table? (s : Schema) (name : String) : Option Columns := s.tables.get? name

def columnType? (s : Schema) (table column : String) : Option String :=
  (s.table? table).bind (·.get? column)

def size (s : Schema) : Nat := s.tables.size

def isEmpty (s : Schema) : Bool := s.tables.isEmpty

def ofList (tables : List (String × Columns)) : Schema := ⟨.ofList tables⟩

def ofColumns (tables : List (String × List (String × String))) : Schema :=
  ofList (tables.map fun t => (t.1,.ofList t.2))

def tableText (name : String) (columns : Columns) : String :=
  name ++ "(" ++ ", ".intercalate (columns.entries.map fun c => c.1 ++ " " ++ c.2) ++ ")"

def display (s : Schema) : String :=
  "\n".intercalate (s.tables.entries.map fun t => tableText t.1 t.2)

def columnsToJson (columns : Columns) : Json :=
  .object (columns.entries.map fun c => (c.1,.text c.2))

def toJson (s : Schema) : Json :=
  .object (s.tables.entries.map fun t => (t.1,columnsToJson t.2))

def reader : Json.Reader Schema := fun cs => do
  let (tables, rest) ← Json.Reader.mapping (Json.Reader.mapping Json.Reader.text) cs
  .ok (ofColumns tables,rest)

def decode (s : String) : Except Json.Fault Schema := Json.Reader.document reader s.toList

end Schema
end Querent
