import Querent.Sqlite.Value

/-! Statements of SQLite as trees. -/
namespace Querent.Sqlite

inductive Prefix where
  | negate
  | keep
  | invert
  | no
  deriving DecidableEq, Repr

inductive Infix where
  | or | and
  | equal | unequal | same | different
  | less | atMost | greater | atLeast
  | bitAnd | bitOr | shiftLeft | shiftRight
  | plus | minus | times | divided | modulo
  | concat
  | like
  deriving DecidableEq, Repr

inductive Combination where
  | unionAll
  | union
  | intersect
  | except
  deriving DecidableEq, Repr

mutual
inductive Expr where
  | constant (v : Value)
  | column (table : Option String) (name : String) (quoted : Bool)
  | prefixed (op : Prefix) (e : Expr)
  | infixed (op : Infix) (left right : Expr)
  | between (e low high : Expr)
  | call (function : String) (distinct : Bool) (arguments : List Expr)
  | callAll (function : String)
  | choice (base : Option Expr) (arms : List (Expr × Expr)) (otherwise : Option Expr)
  | cast (e : Expr) (type : String)
  | oneOf (e : Expr) (items : List Expr)
  | inQuery (e : Expr) (query : Query)
  | exist (query : Query)
  | scalar (query : Query)

inductive Item where
  | all
  | allOf (table : String)
  | value (e : Expr) (name : Option String) (written : String)

inductive Source where
  | table (name : String) (label : Option String)
  | query (query : Query) (label : Option String)
  | group (joins : List Join)

inductive Join where
  | mk (source : Source) (outer natural : Bool) (condition : Option Expr) (shared : List String)

inductive Core where
  | select (distinct : Bool) (items : List Item) (sources : List Join) (condition : Option Expr)
      (groups : List Expr) (groupCondition : Option Expr)
  | values (rows : List (List Expr))

inductive Query where
  | mk (tables : List (String × List String × Query)) (first : Core)
      (rest : List (Combination × Core)) (order : List (Expr × Bool)) (limit offset : Option Expr)
end

instance : Inhabited Expr := ⟨.constant .null⟩

inductive Statement where
  | query (q : Query)
  | change (table : String)
  | create (table : String) (unlessThere : Bool)
  | drop (table : String) (ifThere : Bool)

end Querent.Sqlite
