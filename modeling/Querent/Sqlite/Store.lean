import Querent.Sqlite.Affinity
import Querent.Sqlite.Token
import Querent.Text.Blank

/-! What a database file holds: tables with their rows, views, and the catalog of both. -/
namespace Querent.Sqlite

structure Column where
  name : String
  type : String
  generated : Bool
  deriving DecidableEq, Repr

namespace Column

def affinity (c : Column) : Affinity := .ofDeclared c.type

def constraintWords : List String :=
  ["CONSTRAINT", "PRIMARY", "NOT", "NULL", "UNIQUE", "CHECK", "DEFAULT", "COLLATE", "REFERENCES",
    "GENERATED", "AS"]

def typeOf (declaration : String) : String :=
  let cs := declaration.toList
  let inType := (lexemes cs).1.takeWhile fun l => match l.token with
    | .word key => !constraintWords.contains key
    | _ => true
  match inType.getLast? with
  | some l => Text.trimmed (String.ofList (cs.take (l.start + l.spelling.length)))
  | none => ""

def isRowNumber (declaration : String) : Bool :=
  ((lexemes declaration.toList).1.map (·.token)).take 3 =
    [.word "INTEGER", .word "PRIMARY", .word "KEY"]

def standsOutside (key : String) : (brackets : Nat) → List Token → Bool
  | _, [] => false
  | n, .symbol "(" :: rest => standsOutside key (n + 1) rest
  | n, .symbol ")" :: rest => standsOutside key (n - 1) rest
  | n, t :: rest => (n == 0 && t == .word key) || standsOutside key n rest

def declare (name declaration : String) : Column where
  name
  type := typeOf declaration
  generated := standsOutside "AS" 0 ((lexemes declaration.toList).1.map (·.token))

end Column

def sameName (a b : String) : Bool := a.toList.map Char.toUpper == b.toList.map Char.toUpper

structure Table where
  name : String
  columns : List Column
  rowNumber : Option Nat
  counted : Bool
  rows : List (List Value)
  deriving DecidableEq, Repr

namespace Table

def place (column : Nat) (row : List Value) : List (List Value) → List (List Value)
  | [] => [row]
  | r :: rest =>
    if ((row[column]?).getD .null).compare ((r[column]?).getD .null) = .lt then row :: r :: rest
    else r :: place column row rest

def greatest (column : Nat) (rows : List (List Value)) : Int :=
  rows.foldl (fun (n : Int) (row : List Value) => match row[column]? with
    | some (.integer i) => max n i
    | _ => n) 0

def insert (t : Table) (values : List Value) : Table :=
  let stored := t.columns.zipIdx.map fun (c, i) => c.affinity.store ((values[i]?).getD .null)
  match t.rowNumber with
  | none => { t with rows := t.rows ++ [stored] }
  | some column =>
    let row := match stored[column]? with
      | some .null => stored.set column (.integer (greatest column t.rows + 1))
      | _ => stored
    { t with rows := place column row t.rows }

def declare (name : String) (columns : List (String × String)) (counted : Bool)
    (rows : List (List Value)) : Table :=
  let declared := if counted then
      match columns with
      | (first, _) :: rest => (first,"INTEGER PRIMARY KEY AUTOINCREMENT") :: rest
      | [] => []
    else columns
  let rowNumber := declared.findIdx? fun c => Column.isRowNumber c.2
  rows.foldl insert ⟨name,declared.map fun c => .declare c.1 c.2,rowNumber,counted,[]⟩

end Table

structure Store where
  tables : List Table
  views : List (String × String)
  indexes : List (String × String)
  deriving DecidableEq, Repr

namespace Store

def empty : Store := ⟨[],[],[]⟩

def sequenceName : String := "sqlite_sequence"

def hasCounted (s : Store) : Bool := s.tables.any (·.counted)

def sequence (s : Store) : Table :=
  let rows := (s.tables.filter fun t => t.counted && !t.rows.isEmpty).map fun t =>
    [.text t.name, .integer (Table.greatest (t.rowNumber.getD 0) t.rows)]
  ⟨sequenceName,[⟨"name","",false⟩, ⟨"seq","",false⟩],none,false,rows⟩

def entries (s : Store) : List (String × String × String) :=
  let tables := s.tables.flatMap fun t =>
    ("table",t.name,t.name) ::
      ((s.indexes.filter (·.2 == t.name)).map fun index => ("index",index.1,t.name))
  let counter := if s.hasCounted then [("table",sequenceName,sequenceName)] else []
  let views := s.views.map fun view => ("view",view.1,view.1)
  tables.take 1 ++ counter ++ tables.drop 1 ++ views

def catalogNames : List String := ["sqlite_master", "sqlite_schema"]

def catalogColumns : List Column :=
  [⟨"type","TEXT",false⟩, ⟨"name","TEXT",false⟩, ⟨"tbl_name","TEXT",false⟩, ⟨"rootpage","INT",false⟩,
    ⟨"sql","TEXT",false⟩]

def catalog (s : Store) : Table :=
  let rows := s.entries.zipIdx.map fun ((kind, name, table), i) =>
    [.text kind, .text name, .text table, .integer (if kind = "view" then 0 else i + 2), .null]
  ⟨"sqlite_master",catalogColumns,none,false,rows⟩

def ownTable? (s : Store) (name : String) : Option Table :=
  if catalogNames.any (sameName name) then some s.catalog
  else if s.hasCounted && sameName name sequenceName then some s.sequence
  else s.tables.find? fun t => sameName t.name name

def viewOf (name : String) (t : Table) : Table :=
  { t with name, rowNumber := none, counted := false
           columns := t.columns.map fun c => ⟨c.name,if c.type = "" then "BLOB" else c.type,false⟩ }

def table? (s : Store) (name : String) : Option Table :=
  match s.views.find? fun view => sameName view.1 name with
  | some (view, shown) => (s.ownTable? shown).map (viewOf view)
  | none => s.ownTable? name

end Store

example : Column.typeOf "TEXT NOT NULL" = "TEXT" := by decide +kernel
example : Column.typeOf "Weird Type(1, 2)" = "Weird Type(1, 2)" := by decide +kernel
example : (Column.declare "c" "INT DEFAULT (CAST(1 AS INT))").generated = false := by decide +kernel
example : (Column.declare "c" "INT AS (a + b) STORED").generated = true := by decide +kernel

end Querent.Sqlite
