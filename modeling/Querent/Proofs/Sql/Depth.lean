import Querent.Sql.ReadOnly

/-! How deep it is looked. A statement is a tree of expressions, sources, bodies and queries; it only
reads exactly when no part of the tree, at any depth, locks rows, puts them somewhere or changes them. -/
namespace Querent.Sql

inductive Node where
  | expr (e : Expr)
  | source (s : Source)
  | body (b : Body)
  | query (q : Query)

namespace Node

@[simp]
def children : Node → List Node
  | .expr (.name _) => []
  | .expr (.star _) => []
  | .expr (.constant _) => []
  | .expr (.call _ parts) => parts.map .expr
  | .expr (.form _ parts) => parts.map .expr
  | .expr (.path root steps) => .expr root :: steps.map .expr
  | .expr (.query q) => [.query q]
  | .source (.table _ parts) => parts.map .expr
  | .source (.query q parts) => .query q :: parts.map .expr
  | .source (.pivot inner parts) => .source inner :: parts.map .expr
  | .source (.join left _ right on) => .source left :: .source right :: on.map .expr
  | .source (.group inner) => [.source inner]
  | .body (.select items _ sources clauses) =>
    items.map .expr ++ sources.map .source ++ clauses.map .expr
  | .body (.query q) => [.query q]
  | .body (.values rows) => rows.map .expr
  | .body (.table _) => []
  | .body (.combine _ left right) => [.body left,.body right]
  | .body (.change _) => []
  | .query (.mk named b clauses _) => .body b :: (named.map .query ++ clauses.map .expr)

inductive Within (n : Node) : Node → Prop where
  | here : Within n n
  | deeper {c m} (child : c ∈ m.children) (within : Within n c) : Within n m

@[simp]
def Harmless : Node → Prop
  | .query (.mk _ _ _ locks) => locks = []
  | .body (.select _ into _ _) => into = none
  | .body (.change _) => False
  | _ => True

def OnlyReads (m : Node) : Prop := ∀ n, Within n m → n.Harmless

theorem throughoutIff {p : Node → Prop} {m : Node} :
    (∀ n, Within n m → p n) ↔ p m ∧ ∀ c ∈ m.children, ∀ n, Within n c → p n := by
  constructor
  · intro holds
    exact ⟨holds m .here,fun c child n within => holds n (.deeper child within)⟩
  · rintro ⟨here,deeper⟩ n within
    cases within with
    | here => exact here
    | deeper child within => exact deeper _ child n within

theorem onlyReadsIff {m : Node} : m.OnlyReads ↔ m.Harmless ∧ ∀ c ∈ m.children, c.OnlyReads :=
  throughoutIff

end Node

def Statement.OnlyReads (s : Statement) : Prop := ∃ q, s = .query q ∧ (Node.query q).OnlyReads

section Parts
open Node

@[simp] theorem nameOnlyReads (parts : Name) : (Node.expr (.name parts)).OnlyReads :=
  onlyReadsIff.mpr ⟨trivial,by simp⟩

@[simp] theorem starOnlyReads (table : Name) : (Node.expr (.star table)).OnlyReads :=
  onlyReadsIff.mpr ⟨trivial,by simp⟩

@[simp] theorem constantOnlyReads (t : Token) : (Node.expr (.constant t)).OnlyReads :=
  onlyReadsIff.mpr ⟨trivial,by simp⟩

@[simp] theorem callOnlyReads (function : Name) (parts : List Expr) :
    (Node.expr (.call function parts)).OnlyReads ↔ ∀ e ∈ parts, (Node.expr e).OnlyReads := by
  rw [onlyReadsIff]
  simp

@[simp] theorem formOnlyReads (label : String) (parts : List Expr) :
    (Node.expr (.form label parts)).OnlyReads ↔ ∀ e ∈ parts, (Node.expr e).OnlyReads := by
  rw [onlyReadsIff]
  simp

@[simp] theorem pathOnlyReads (root : Expr) (steps : List Expr) :
    (Node.expr (.path root steps)).OnlyReads ↔
      (Node.expr root).OnlyReads ∧ ∀ e ∈ steps, (Node.expr e).OnlyReads := by
  rw [onlyReadsIff]
  simp

@[simp] theorem nestedOnlyReads (q : Query) :
    (Node.expr (.query q)).OnlyReads ↔ (Node.query q).OnlyReads := by
  rw [onlyReadsIff]
  simp

@[simp] theorem tableOnlyReads (name : Name) (parts : List Expr) :
    (Node.source (.table name parts)).OnlyReads ↔ ∀ e ∈ parts, (Node.expr e).OnlyReads := by
  rw [onlyReadsIff]
  simp

@[simp] theorem derivedOnlyReads (q : Query) (parts : List Expr) :
    (Node.source (.query q parts)).OnlyReads ↔ (Node.query q).OnlyReads ∧
      ∀ e ∈ parts, (Node.expr e).OnlyReads := by
  rw [onlyReadsIff]
  simp

@[simp] theorem pivotOnlyReads (s : Source) (parts : List Expr) :
    (Node.source (.pivot s parts)).OnlyReads ↔ (Node.source s).OnlyReads ∧
      ∀ e ∈ parts, (Node.expr e).OnlyReads := by
  rw [onlyReadsIff]
  simp

@[simp] theorem joinOnlyReads (left : Source) (operator : String) (right : Source)
    (on : List Expr) :
    (Node.source (.join left operator right on)).OnlyReads ↔ (Node.source left).OnlyReads ∧
      (Node.source right).OnlyReads ∧ ∀ e ∈ on, (Node.expr e).OnlyReads := by
  rw [onlyReadsIff]
  simp

@[simp] theorem groupOnlyReads (s : Source) :
    (Node.source (.group s)).OnlyReads ↔ (Node.source s).OnlyReads := by
  rw [onlyReadsIff]
  simp

@[simp] theorem selectOnlyReads (items : List Expr) (into : Option Name) (sources : List Source)
    (clauses : List Expr) :
    (Node.body (.select items into sources clauses)).OnlyReads ↔ into = none ∧
      (∀ e ∈ items, (Node.expr e).OnlyReads) ∧ (∀ s ∈ sources, (Node.source s).OnlyReads) ∧
        ∀ e ∈ clauses, (Node.expr e).OnlyReads := by
  rw [onlyReadsIff]
  simp [or_imp,forall_and]

@[simp] theorem parenthesizedOnlyReads (q : Query) :
    (Node.body (.query q)).OnlyReads ↔ (Node.query q).OnlyReads := by
  rw [onlyReadsIff]
  simp

@[simp] theorem valuesOnlyRead (rows : List Expr) :
    (Node.body (.values rows)).OnlyReads ↔ ∀ e ∈ rows, (Node.expr e).OnlyReads := by
  rw [onlyReadsIff]
  simp

@[simp] theorem wholeOnlyReads (table : Name) : (Node.body (.table table)).OnlyReads :=
  onlyReadsIff.mpr ⟨trivial,by simp⟩

@[simp] theorem combineOnlyReads (operator : String) (left right : Body) :
    (Node.body (.combine operator left right)).OnlyReads ↔
      (Node.body left).OnlyReads ∧ (Node.body right).OnlyReads := by
  rw [onlyReadsIff]
  simp

@[simp] theorem changeDoesMore (label : String) : ¬(Node.body (.change label)).OnlyReads :=
  fun reads => reads _ .here

@[simp] theorem mkOnlyReads (named : List Query) (body : Body) (clauses : List Expr)
    (locks : List String) :
    (Node.query (.mk named body clauses locks)).OnlyReads ↔ locks = [] ∧
      (Node.body body).OnlyReads ∧ (∀ q ∈ named, (Node.query q).OnlyReads) ∧
        ∀ e ∈ clauses, (Node.expr e).OnlyReads := by
  rw [onlyReadsIff]
  simp [or_imp,forall_and]

end Parts

mutual

theorem exprOnlyReads (e : Expr) :
    e.queries.all Query.onlyReads = true ↔ (Node.expr e).OnlyReads := by
  cases e with
  | name parts => simp [Expr.queries]
  | star table => simp [Expr.queries]
  | constant t => simp [Expr.queries]
  | call function parts => rw [Expr.queries,exprsOnlyRead parts,callOnlyReads]
  | form label parts => rw [Expr.queries,exprsOnlyRead parts,formOnlyReads]
  | path root steps =>
    rw [Expr.queries,List.all_append,Bool.and_eq_true,exprOnlyReads root,exprsOnlyRead steps,
      pathOnlyReads]
  | query q => rw [Expr.queries,queryOnlyReads q,nestedOnlyReads]

theorem exprsOnlyRead (parts : List Expr) :
    (Expr.queriesOfList parts).all Query.onlyReads = true ↔
      ∀ e ∈ parts, (Node.expr e).OnlyReads := by
  cases parts with
  | nil => simp [Expr.queriesOfList]
  | cons e rest =>
    rw [Expr.queriesOfList,List.all_append,Bool.and_eq_true,exprOnlyReads e,exprsOnlyRead rest,
      List.forall_mem_cons]

theorem sourceOnlyReads (s : Source) :
    s.queries.all Query.onlyReads = true ↔ (Node.source s).OnlyReads := by
  cases s with
  | table name parts => rw [Source.queries,exprsOnlyRead parts,tableOnlyReads]
  | query q parts =>
    rw [Source.queries,List.all_append,Bool.and_eq_true,queryOnlyReads q,exprsOnlyRead parts,
      derivedOnlyReads]
  | pivot inner parts =>
    rw [Source.queries,List.all_append,Bool.and_eq_true,sourceOnlyReads inner,exprsOnlyRead parts,
      pivotOnlyReads]
  | join left operator right on =>
    rw [Source.queries,List.all_append,List.all_append,Bool.and_eq_true,Bool.and_eq_true,
      sourceOnlyReads left,sourceOnlyReads right,exprsOnlyRead on,joinOnlyReads,and_assoc]
  | group inner => rw [Source.queries,sourceOnlyReads inner,groupOnlyReads]

theorem sourcesOnlyRead (sources : List Source) :
    (Source.queriesOfList sources).all Query.onlyReads = true ↔
      ∀ s ∈ sources, (Node.source s).OnlyReads := by
  cases sources with
  | nil => simp [Source.queriesOfList]
  | cons s rest =>
    rw [Source.queriesOfList,List.all_append,Bool.and_eq_true,sourceOnlyReads s,
      sourcesOnlyRead rest,List.forall_mem_cons]

theorem bodyOnlyReads (b : Body) :
    (b.onlyReads && b.queries.all Query.onlyReads) = true ↔ (Node.body b).OnlyReads := by
  cases b with
  | select items into sources clauses =>
    rw [Body.onlyReads,Body.queries,List.all_append,List.all_append,Bool.and_eq_true,
      Bool.and_eq_true,Bool.and_eq_true,exprsOnlyRead items,sourcesOnlyRead sources,
      exprsOnlyRead clauses,selectOnlyReads,Option.isNone_iff_eq_none,and_assoc]
  | query q =>
    rw [Body.onlyReads,Body.queries,Bool.true_and,queryOnlyReads q,parenthesizedOnlyReads]
  | values rows =>
    rw [Body.onlyReads,Body.queries,Bool.true_and,exprsOnlyRead rows,valuesOnlyRead]
  | table name => simp [Body.onlyReads,Body.queries]
  | combine operator left right =>
    rw [combineOnlyReads,← bodyOnlyReads left,← bodyOnlyReads right,Body.onlyReads,Body.queries,
      List.all_append]
    simp only [Bool.and_eq_true]
    exact and_and_and_comm
  | change label => simp [Body.onlyReads]

theorem queryOnlyReads (q : Query) :
    q.queries.all Query.onlyReads = true ↔ (Node.query q).OnlyReads := by
  obtain ⟨named,body,clauses,locks⟩ := q
  rw [mkOnlyReads,← bodyOnlyReads body,← queriesOnlyRead named,← exprsOnlyRead clauses,
    Query.queries,List.all_cons,List.all_append,List.all_append,Query.onlyReads]
  simp only [Bool.and_eq_true,List.isEmpty_iff,and_assoc,and_left_comm]

theorem queriesOnlyRead (queries : List Query) :
    (Query.queriesOfList queries).all Query.onlyReads = true ↔
      ∀ q ∈ queries, (Node.query q).OnlyReads := by
  cases queries with
  | nil => simp [Query.queriesOfList]
  | cons q rest =>
    rw [Query.queriesOfList,List.all_append,Bool.and_eq_true,queryOnlyReads q,
      queriesOnlyRead rest,List.forall_mem_cons]

end

theorem isReadOnlyIff {s : Statement} : s.isReadOnly = true ↔ s.OnlyReads := by
  cases s with
  | query q => simp [Statement.isReadOnly,Statement.OnlyReads,← queryOnlyReads]
  | command label => simp [Statement.isReadOnly,Statement.OnlyReads]

end Querent.Sql
