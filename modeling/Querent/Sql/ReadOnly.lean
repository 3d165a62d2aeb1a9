import Querent.Sql.Tree

/-! Whether a statement only reads: it is a query, and no query in it, however deep, takes locks, puts
rows into a table or has a change of rows in it. -/
namespace Querent.Sql

mutual

def Expr.queries : Expr → List Query
  | .name _ => []
  | .star _ => []
  | .constant _ => []
  | .call _ parts => Expr.queriesOfList parts
  | .form _ parts => Expr.queriesOfList parts
  | .path root steps => root.queries ++ Expr.queriesOfList steps
  | .query q => q.queries

def Expr.queriesOfList : List Expr → List Query
  | [] => []
  | e :: rest => e.queries ++ Expr.queriesOfList rest

def Source.queries : Source → List Query
  | .table _ parts => Expr.queriesOfList parts
  | .query q parts => q.queries ++ Expr.queriesOfList parts
  | .pivot source parts => source.queries ++ Expr.queriesOfList parts
  | .join left _ right on => left.queries ++ right.queries ++ Expr.queriesOfList on
  | .group source => source.queries

def Source.queriesOfList : List Source → List Query
  | [] => []
  | s :: rest => s.queries ++ Source.queriesOfList rest

def Body.queries : Body → List Query
  | .select items _ sources clauses =>
    Expr.queriesOfList items ++ Source.queriesOfList sources ++ Expr.queriesOfList clauses
  | .query q => q.queries
  | .values rows => Expr.queriesOfList rows
  | .table _ => []
  | .combine _ left right => left.queries ++ right.queries
  | .change _ => []

def Query.queries : Query → List Query
  | .mk named body clauses locks =>
    .mk named body clauses locks :: (Query.queriesOfList named ++ body.queries ++
      Expr.queriesOfList clauses)

def Query.queriesOfList : List Query → List Query
  | [] => []
  | q :: rest => q.queries ++ Query.queriesOfList rest

end

def Body.onlyReads : Body → Bool
  | .select _ into _ _ => into.isNone
  | .query _ => true
  | .values _ => true
  | .table _ => true
  | .combine _ left right => left.onlyReads && right.onlyReads
  | .change _ => false

def Query.onlyReads : Query → Bool
  | .mk _ body _ locks => locks.isEmpty && body.onlyReads

def Statement.isReadOnly : Statement → Bool
  | .query q => q.queries.all Query.onlyReads
  | .command _ => false

def Statement.label : Statement → String
  | .query _ => "SELECT with side effects"
  | .command label => label

end Querent.Sql
