import Querent.Sql.Token

/-! The tree of a statement. It keeps where queries stand inside expressions, sources of rows and
other queries, since that decides whether a statement only reads; operators, functions and special
forms are told apart by a label. -/
namespace Querent.Sql

abbrev Name := List Word

mutual

inductive Expr where
  | name (parts : Name)
  | star (table : Name)
  | constant (t : Token)
  | call (function : Name) (parts : List Expr)
  | form (label : String) (parts : List Expr)
  | path (root : Expr) (steps : List Expr)
  | query (q : Query)

inductive Source where
  | table (name : Name) (parts : List Expr)
  | query (q : Query) (parts : List Expr)
  | pivot (source : Source) (parts : List Expr)
  | join (left : Source) (operator : String) (right : Source) (on : List Expr)
  | group (source : Source)

inductive Body where
  /-- Items, the table that takes the rows if one is named, the sources and all further clauses. -/
  | select (items : List Expr) (into : Option Name) (sources : List Source) (clauses : List Expr)
  | query (q : Query)
  | values (rows : List Expr)
  | table (name : Name)
  | combine (operator : String) (left right : Body)
  | change (label : String)

/-- A query: the named queries before it, its body, its order and limits, and the kinds of locks it
takes on the rows it reads. -/
inductive Query where
  | mk (named : List Query) (body : Body) (clauses : List Expr) (locks : List String)

end

inductive Statement where
  | query (q : Query)
  | command (label : String)

end Querent.Sql
