import Querent.Sqlite.Operation
import Querent.Sqlite.Store

/-! What queries mean. Names are resolved before any row is seen: an expression becomes a function of
the rows in reach, and a query a function of the rows around it. -/
namespace Querent.Sqlite

/-- A column in reach, and the source that it belongs to. A hidden column has a twin before it. -/
structure Origin where
  source : Option String
  name : String
  affinity : Affinity
  hidden : Bool
  deriving DecidableEq, Repr

abbrev Frame := List Origin

abbrev Rows := List (List Value)

structure Context where
  rows : Rows
  group : List Rows

structure Term where
  affinity : Affinity
  column : Option String
  grouped : Bool
  value : Context → Except Fault Value

structure Relation where
  columns : Frame
  rows : Rows → Except Fault (List (List Value))

structure Scope where
  store : Store
  tables : List (String × Nat × Relation)
  frames : List Frame
  aliases : List (String × Expr)
  grouping : Bool

namespace Plan

structure Deeper where
  term : Scope → Expr → Except Fault Term
  query : Scope → Query → Except Fault Relation
  sources : Scope → List Join → Except Fault Relation

def constant (v : Value) : Term := ⟨.none,none,false,fun _ => .ok v⟩

def isFor (table : Option String) (name : String) (o : Origin) : Bool :=
  sameName o.name name && match table with
    | none => !o.hidden
    | some table => o.source.any (sameName table)

def written (table : Option String) (name : String) : String :=
  match table with
  | none => name
  | some table => table ++ "." ++ name

def inFrame (table : Option String) (name : String) (frame : Frame) :
    Except Fault (Option (Nat × Origin)) :=
  match frame.zipIdx.filter fun (o, _) => isFor table name o with
  | [] => .ok none
  | [(o, i)] => .ok (some (i,o))
  | _ => .error (.ambiguous (written table name))

def inFrames (table : Option String) (name : String) : (depth : Nat) → List Frame →
    Except Fault (Option (Nat × Nat × Origin))
  | _, [] => .ok none
  | depth, frame :: rest => do
    match ← inFrame table name frame with
    | some (i, o) => return some (depth,i,o)
    | none => inFrames table name (depth + 1) rest

def place (depth index : Nat) (c : Context) : Value := ((c.rows[depth]?).bind (·[index]?)).getD .null

def columnTerm (depth index : Nat) (o : Origin) : Term :=
  ⟨o.affinity,some o.name,false,fun c => .ok (place depth index c)⟩

def column (d : Deeper) (s : Scope) (table : Option String) (name : String) (quoted : Bool) :
    Except Fault Term := do
  let label := if table.isNone then s.aliases.find? fun a => sameName a.1 name else none
  match ← inFrames table name 0 (s.frames.take 1), label with
  | some (depth, i, o), _ => return columnTerm depth i o
  | none, some (_, e) => d.term { s with aliases := [] } e
  | none, none => match ← inFrames table name 1 (s.frames.drop 1) with
    | some (depth, i, o) => return columnTerm depth i o
    | none =>
      if quoted then return constant (.text name)
      throw (.noColumn (written table name))

def distinctOf (vs : List Value) : List Value :=
  vs.foldl (fun kept v => if kept.any (Operation.same v) then kept else kept ++ [v]) []

def aggregate (argument : Term) (distinct : Bool) (f : List Value → Except Fault Value) : Term :=
  ⟨.none,none,true,fun c => do
    let values ← c.group.mapM fun rows => argument.value ⟨rows,[]⟩
    let known := values.filter (!·.isNull)
    f (if distinct then distinctOf known else known)⟩

def groupSize : Term := ⟨.none,none,true,fun c => .ok (.integer c.group.length)⟩

def call (d : Deeper) (s : Scope) (function : String) (distinct : Bool) (arguments : List Expr) :
    Except Fault Term := do
  let key := String.ofList (function.toList.map Char.toLower)
  let scalar := (Function.scalars.lookup key).filter fun f =>
    f.least ≤ arguments.length && f.most.all (arguments.length ≤ ·)
  match scalar, Function.aggregates.lookup key, arguments with
  | some f, _, _ =>
    let terms ← arguments.mapM (d.term s)
    return ⟨.none,none,terms.any (·.grouped),fun c => do
      return f.apply (← terms.mapM fun t => t.value c)⟩
  | none, some f, [argument] =>
    if !s.grouping then throw (.misuse function)
    return aggregate (← d.term { s with grouping := false } argument) distinct f
  | none, some _, [] =>
    if key != "count" then throw (.argumentCount function)
    if !s.grouping then throw (.misuse function)
    return groupSize
  | none, some _, _ => throw (.argumentCount function)
  | none, none, _ =>
    throw (if (Function.scalars.lookup key).isSome then .argumentCount function
      else .noFunction function)

def among (v : Value) (others : List Value) : Value :=
  let outcomes := others.map fun w => Operation.compared (· = .eq) v w
  if outcomes.contains (some true) then .bool true
  else if outcomes.contains none then .null
  else .bool false

def chosen (base : Option Term) (arms : List (Term × Term)) (otherwise : Option Term) (c : Context) :
    Except Fault Value :=
  match arms with
  | [] => match otherwise with
    | some t => t.value c
    | none => .ok .null
  | (condition, result) :: rest => do
    let holds ← match base with
      | none => (Value.truth ·) <$> condition.value c
      | some b => do
        let (x, y) := Affinity.meet b.affinity condition.affinity (← b.value c) (← condition.value c)
        pure (Operation.compared (· = .eq) x y)
    if holds = some true then result.value c else chosen base rest otherwise c

def term (d : Deeper) (s : Scope) : Expr → Except Fault Term
  | .constant v => .ok (constant v)
  | .column table name quoted => column d s table name quoted
  | .prefixed op e => do
    let t ← d.term s e
    return ⟨if op = .keep then t.affinity else .none,none,t.grouped,fun c => do
      return Operation.prefixed op (← t.value c)⟩
  | .infixed op left right => do
    let l ← d.term s left
    let r ← d.term s right
    return ⟨.none,none,l.grouped || r.grouped,fun c => do
      let x ← l.value c
      let y ← r.value c
      let (x, y) := if Operation.isComparison op then Affinity.meet l.affinity r.affinity x y
        else (x,y)
      return Operation.infixed op x y⟩
  | .between e low high =>
    d.term s (.infixed .and (.infixed .atLeast e low) (.infixed .atMost e high))
  | .call function distinct arguments => call d s function distinct arguments
  | .callAll function =>
    if String.ofList (function.toList.map Char.toLower) != "count" then
      .error (if (Function.aggregates.lookup function).isSome then .argumentCount function
        else .noFunction function)
    else if s.grouping then .ok groupSize
    else .error (.misuse function)
  | .choice base arms otherwise => do
    let base ← base.mapM (d.term s)
    let arms ← arms.mapM fun arm => return (← d.term s arm.1, ← d.term s arm.2)
    let otherwise ← otherwise.mapM (d.term s)
    let all := base.toList ++ arms.flatMap (fun arm => [arm.1, arm.2]) ++ otherwise.toList
    return ⟨.none,none,all.any (·.grouped),chosen base arms otherwise⟩
  | .cast e type => do
    let t ← d.term s e
    return ⟨.ofDeclared type,none,t.grouped,fun c => return Operation.cast type (← t.value c)⟩
  | .oneOf e items => do
    let t ← d.term s e
    let others ← items.mapM (d.term s)
    return ⟨.none,none,t.grouped || others.any (·.grouped),fun c => do
      let v ← t.value c
      let values ← others.mapM fun o => return (Affinity.meet t.affinity .none v (← o.value c)).2
      return among v values⟩
  | .inQuery e query => do
    let t ← d.term s e
    let r ← d.query s query
    if r.columns.length ≠ 1 then throw (.subqueryColumns r.columns.length)
    let affinity := (r.columns.head?.map (·.affinity)).getD .none
    return ⟨.none,none,t.grouped,fun c => do
      let v ← t.value c
      let met := (← r.rows c.rows).map fun row =>
        Affinity.meet t.affinity affinity v ((row.head?).getD .null)
      return among ((met.head?.map (·.1)).getD v) (met.map (·.2))⟩
  | .exist query => do
    let r ← d.query s query
    return ⟨.none,none,false,fun c => return .bool (!(← r.rows c.rows).isEmpty)⟩
  | .scalar query => do
    let r ← d.query s query
    if r.columns.length ≠ 1 then throw (.subqueryColumns r.columns.length)
    return ⟨(r.columns.head?.map (·.affinity)).getD .none,none,false,fun c =>
      return ((← r.rows c.rows).head?.bind (·.head?)).getD .null⟩

def named (source : String) (columns : Frame) : Frame :=
  columns.map fun o => { o with source := some source, hidden := false }

def table (s : Scope) (name : String) : Except Fault Relation :=
  match s.tables.find? fun t => sameName t.1 name with
  | some (_, depth, r) =>
    .ok ⟨r.columns,fun rows => r.rows (rows.drop (s.frames.length - depth))⟩
  | none => match s.store.table? name with
    | some t => .ok ⟨t.columns.map fun c => ⟨none,c.name,c.affinity,false⟩,fun _ => .ok t.rows⟩
    | none => .error (.noTable name)

def numbered : (taken : List String) → Frame → Frame
  | _, [] => []
  | taken, o :: rest =>
    let name := if taken.any (sameName o.name) then
        o.name ++ ":" ++ toString ((taken.filter (sameName o.name)).length)
      else o.name
    { o with name } :: numbered (o.name :: taken) rest

def source (d : Deeper) (s : Scope) : Source → Except Fault Relation
  | .table name label => do
    let r ← table s name
    return ⟨named (label.getD name) r.columns,r.rows⟩
  | .query q label => do
    let r ← d.query { s with aliases := [] } q
    let columns := numbered [] r.columns
    return ⟨match label with
      | some label => named label columns
      | none => columns,r.rows⟩
  | .group joins => d.sources s joins

def sharedPlaces (left right : Frame) (names : List String) : Except Fault (List (Nat × Nat)) :=
  names.mapM fun name => do
    match left.findIdx? (isFor none name), right.findIdx? (isFor none name) with
    | some i, some j => return (i,j)
    | _, _ => throw (.noColumn name)

def commonNames (left right : Frame) : List String :=
  (right.filter fun o => left.any fun p => !p.hidden && sameName p.name o.name).map (·.name)

def agree (shared : List (Nat × Nat)) (l r : List Value) : Bool :=
  shared.all fun (i, j) =>
    Operation.compared (· = .eq) ((l[i]?).getD .null) ((r[j]?).getD .null) = some true

def isTrue (t : Term) (c : Context) : Except Fault Bool :=
  return (← t.value c).truth = some true

def join (d : Deeper) (s : Scope) (left : Relation) : Join → Except Fault Relation
  | .mk next outer natural condition shared => do
    let right ← source d s next
    let names := if natural then commonNames left.columns right.columns else shared
    let places ← sharedPlaces left.columns right.columns names
    let twins := right.columns.map fun o => { o with hidden := o.hidden || names.any (sameName o.name) }
    let columns := left.columns ++ twins
    let condition ← condition.mapM
      (d.term { s with frames := columns :: s.frames, aliases := [], grouping := false })
    return ⟨columns,fun around => do
      let others ← right.rows around
      let joined ← (← left.rows around).mapM fun l => do
        let met ← others.filterM fun r =>
          if agree places l r then match condition with
            | none => return true
            | some t => isTrue t ⟨(l ++ r) :: around,[]⟩
          else return false
        if outer && met.isEmpty then return [l ++ right.columns.map fun _ => .null]
        return met.map (l ++ ·)
      return joined.flatten⟩

def sources (d : Deeper) (s : Scope) : List Join → Except Fault Relation
  | [] => .ok ⟨[],fun _ => .ok [[]]⟩
  | .mk first _ _ _ _ :: rest => do rest.foldlM (join d s) (← source d s first)

def insertBefore {α : Type} (before : α → α → Bool) (x : α) : List α → List α
  | [] => [x]
  | y :: rest => if before y x then y :: insertBefore before x rest else x :: y :: rest

def sorted {α : Type} (compare : α → α → Ordering) (xs : List α) : List α :=
  xs.foldr (insertBefore fun y x => compare y x = .lt) []

def compareKeys : (descending : List Bool) → (a b : List Value) → Ordering
  | descending, x :: a, y :: b =>
    let here := x.compare y
    let here := if descending.head?.getD false then here.swap else here
    here.then (compareKeys (descending.drop 1) a b)
  | _, _, _ => .eq

def sameRow (a b : List Value) : Bool := compareKeys [] a b = .eq

def asSet (rows : List (List Value)) : List (List Value) :=
  (sorted (compareKeys []) rows).foldr (fun row rest => match rest with
    | next :: _ => if sameRow row next then rest else row :: rest
    | [] => [row]) []

abbrev Keyed := List Value × List Value

structure Selection where
  columns : Frame
  rows : Rows → Except Fault (List Keyed)

structure Result where
  name : String
  label : Option String
  expr : Option Expr
  term : Term

def allColumns (frame : Frame) (wanted : Origin → Bool) : List Result :=
  (frame.zipIdx.filter fun (o, _) => wanted o).map fun (o, i) => ⟨o.name,none,none,columnTerm 0 i o⟩

def results (d : Deeper) (s : Scope) (frame : Frame) (sourced : Bool) : Item → Except Fault (List Result)
  | .all => if sourced then .ok (allColumns frame (!·.hidden)) else .error .noTablesGiven
  | .allOf name =>
    let found := allColumns frame fun o => o.source.any (sameName name)
    if found.isEmpty then .error (.noTable name) else .ok found
  | .value e label written => do
    let t ← d.term s e
    return [⟨(label.or t.column).getD written,label,some e,t⟩]

def resultTerm (clause : String) (results : List Result) (n : Nat) : Expr →
    Except Fault (Option Term)
  | .constant (.integer i) =>
    if 1 ≤ i ∧ i ≤ results.length then .ok ((results[(i - 1).toNat]?).map (·.term))
    else .error (.termRange n clause results.length)
  | .column none name _ =>
    .ok ((results.find? fun r => r.label.any (sameName name)).map (·.term))
  | _ => .ok none

def clauseTerms (d : Deeper) (s : Scope) (clause : String) (results : List Result)
    (exprs : List Expr) : Except Fault (List Term) :=
  exprs.zipIdx.mapM fun (e, i) => do
    match ← resultTerm clause results (i + 1) e with
    | some t => return t
    | none => d.term s e

def gather (groups : List (List Value × List Rows)) (key : List Value) (rows : Rows) :
    List (List Value × List Rows) :=
  match groups with
  | [] => [(key,[rows])]
  | (k, members) :: rest =>
    if sameRow k key then (k,members ++ [rows]) :: rest else (k,members) :: gather rest key rows

def representative (wanted : Option (Term × Ordering)) (none : Rows) (group : List Rows) :
    Except Fault Rows := do
  let first := group.head?.getD none
  match wanted with
  | some (t, order) =>
    group.foldlM (fun best rows => do
      let v ← t.value ⟨rows,[]⟩
      let w ← t.value ⟨best,[]⟩
      return if !v.isNull && (w.isNull || v.compare w = order) then rows else best) first
  | Option.none => return first

def wantedExtreme (d : Deeper) (s : Scope) (results : List Result) :
    Except Fault (Option (Term × Ordering)) := do
  let found := results.findSome? fun r => match r.expr with
    | some (.call f _ [e]) =>
      if sameName f "max" then some (e,Ordering.gt)
      else if sameName f "min" then some (e,Ordering.lt)
      else none
    | _ => none
  match found with
  | some (e, order) => return some (← d.term s e,order)
  | none => return none

def distinctRows (rows : List Keyed) : List Keyed :=
  rows.foldl (fun kept row => if kept.any (sameRow row.1 ·.1) then kept else kept ++ [row]) []

def values (d : Deeper) (s : Scope) (rows : List (List Expr)) : Except Fault Selection := do
  let terms ← rows.mapM (·.mapM (d.term s))
  let width := (terms.head?.map List.length).getD 0
  if terms.any (·.length != width) then throw .valuesColumns
  let columns := (List.range width).map fun i =>
    Origin.mk none ("column" ++ toString (i + 1)) .none false
  return ⟨columns,fun around => terms.mapM fun row => do
    return (← row.mapM (·.value ⟨around,[]⟩),[])⟩

def satisfying (condition : Option Term) (rows : List Rows) : Except Fault (List Rows) :=
  match condition with
  | none => .ok rows
  | some t => rows.filterM fun r => isTrue t ⟨r,[]⟩

def gathered (terms : List Term) (rows : List Rows) : Except Fault (List (List Rows)) :=
  if terms.isEmpty then .ok [rows]
  else do
    let keyed ← rows.mapM fun r => return (← terms.mapM (·.value ⟨r,[]⟩),r)
    let groups := keyed.foldl (fun groups (key, r) => gather groups key r) []
    return (sorted (fun a b => compareKeys [] a.1 b.1) groups).map (·.2)

def contexts (wanted : Option (Term × Ordering)) (nothing : Rows) (condition : Option Term)
    (groups : List (List Rows)) : Except Fault (List Context) := do
  let all ← groups.mapM fun group => return ⟨← representative wanted nothing group,group⟩
  match condition with
  | none => return all
  | some t => all.filterM (isTrue t)

def resultRows (distinct : Bool) (terms keys : List Term) (contexts : List Context) :
    Except Fault (List Keyed) := do
  let rows ← contexts.mapM fun c =>
    return (← terms.mapM (·.value c),← keys.mapM (·.value c))
  return if distinct then distinctRows rows else rows

def select (d : Deeper) (outer : Scope) (core : Core) (order : List Expr) :
    Except Fault Selection :=
  match core with
  | .values rows => values d outer rows
  | .select distinct items joins condition groups groupCondition => do
    let from_ ← d.sources { outer with aliases := [] } joins
    let plain : Scope :=
      { outer with frames := from_.columns :: outer.frames, aliases := [], grouping := false }
    let found ← items.mapM (results d { plain with grouping := true } from_.columns (!joins.isEmpty))
    let found := found.flatten
    let aliases := found.filterMap fun r => do return (← r.label, ← r.expr)
    let s : Scope := { plain with aliases }
    let whole : Scope := { s with grouping := true }
    let condition ← condition.mapM (d.term s)
    let groupTerms ← clauseTerms d s "GROUP BY" found groups
    let groupCondition ← groupCondition.mapM (d.term whole)
    let keys ← clauseTerms d whole "ORDER BY" found order
    let terms := found.map (·.term)
    let grouped := !groups.isEmpty ||
      (terms ++ groupCondition.toList ++ keys).any (·.grouped)
    let wanted ← (if grouped then wantedExtreme d plain found else pure none)
    let columns := found.map fun r => Origin.mk none r.name r.term.affinity false
    let nothing := from_.columns.map fun _ => Value.null
    return ⟨columns,fun around => do
      let rows := (← from_.rows around).map (· :: around)
      let kept ← satisfying condition rows
      let contexts ← (if grouped then
          gathered groupTerms kept >>= contexts wanted (nothing :: around) groupCondition
        else pure (kept.map (⟨·,[]⟩)))
      resultRows distinct terms keys contexts⟩

def combinationName : Combination → String
  | .unionAll => "UNION ALL"
  | .union => "UNION"
  | .intersect => "INTERSECT"
  | .except => "EXCEPT"

def combine (how : Combination) (a b : List (List Value)) : List (List Value) :=
  match how with
  | .unionAll => a ++ b
  | .union => asSet (a ++ b)
  | .intersect => asSet (a.filter fun row => b.any (sameRow row))
  | .except => asSet (a.filter fun row => !b.any (sameRow row))

def unionPlace (columns : Frame) (n : Nat) : Expr → Except Fault Nat
  | .constant (.integer i) =>
    if 1 ≤ i ∧ i ≤ columns.length then .ok (i - 1).toNat
    else .error (.termRange n "ORDER BY" columns.length)
  | .column none name _ => match columns.findIdx? fun o => sameName o.name name with
    | some i => .ok i
    | none => .error (.termUnmatched n "ORDER BY")
  | _ => .error (.termUnmatched n "ORDER BY")

def combined (d : Deeper) (s : Scope) (first : Core) (rest : List (Combination × Core))
    (order : List Expr) : Except Fault Selection :=
  if rest.isEmpty then select d s first order
  else do
    let start ← select d s first []
    let others ← rest.mapM fun (how, core) => do
      let next ← select d s core []
      if next.columns.length ≠ start.columns.length then
        throw (.unionColumns (combinationName how))
      return (how,next)
    let places ← order.zipIdx.mapM fun (e, i) => unionPlace start.columns (i + 1) e
    return ⟨start.columns,fun around => do
      let rows ← others.foldlM (fun rows (how, next) => do
        return combine how rows ((← next.rows around).map (·.1))) ((← start.rows around).map (·.1))
      return rows.map fun row => (row,places.map fun i => (row[i]?).getD .null)⟩

def cut (limit offset : Option Int) (rows : List (List Value)) : List (List Value) :=
  let rest := rows.drop (offset.getD 0).toNat
  match limit with
  | some n => if n < 0 then rest else rest.take n.toNat
  | none => rest

def addTables (d : Deeper) (s : Scope) (tables : List (String × List String × Query)) :
    Except Fault Scope :=
  tables.foldlM (fun s (name, names, q) => do
    let r ← d.query s q
    let columns := (numbered [] r.columns).zipIdx.map fun (o, i) => { o with
      name := (names[i]?).getD o.name }
    return { s with tables := (name,s.frames.length,⟨columns,r.rows⟩) :: s.tables }) s

def query (d : Deeper) (outer : Scope) : Query → Except Fault Relation
  | .mk tables first rest order limit offset => do
    let s ← addTables d { outer with aliases := [], grouping := false } tables
    let selection ← combined d s first rest (order.map (·.1))
    let limit ← limit.mapM (d.term s)
    let offset ← offset.mapM (d.term s)
    return ⟨selection.columns,fun around => do
      let rows ← selection.rows around
      let inOrder := sorted (fun a b => compareKeys (order.map (·.2)) a.2 b.2) rows
      let limit ← limit.mapM fun t => return (← t.value ⟨around,[]⟩).toInteger
      let offset ← offset.mapM fun t => return (← t.value ⟨around,[]⟩).toInteger
      return cut limit offset (inOrder.map (·.1))⟩

def deeper : Nat → Deeper
  | 0 => ⟨fun _ _ => .error .incomplete,fun _ _ => .error .incomplete,fun _ _ => .error .incomplete⟩
  | n + 1 =>
    let d := deeper n
    ⟨term d,query d,sources d⟩

end Plan

def Query.run (levels : Nat) (s : Store) (q : Query) :
    Except Fault (List (List (String × Value))) := do
  let r ← (Plan.deeper levels).query ⟨s,[],[],[],false⟩ q
  return (← r.rows []).map fun row => (r.columns.map (·.name)).zip row

end Querent.Sqlite
