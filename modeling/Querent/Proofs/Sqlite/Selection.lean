import Mathlib
import Querent.Sqlite.Script

/-! What queries for a column of one table give. Conditions are resolved part by part, each part to a function
of the rows in reach. -/
namespace Querent.Sqlite.Plan

def Resolves (d : Deeper) (s : Scope) (e : Expr) (affinity : Affinity) (value : Context → Value) : Prop :=
  ∃ column, d.term s e = .ok ⟨affinity,column,false,fun c => .ok (value c)⟩

section Resolution
variable {s : Scope} {n : Nat} {e e' : Expr} {a b : Affinity} {p q : Context → Value}

theorem resolvesConstant (v : Value) : Resolves (deeper (n + 1)) s (.constant v) .none fun _ => v :=
  ⟨none,rfl⟩

theorem resolvesColumn {name : String} {i : Nat} {o : Origin}
    (found : inFrames none name 0 (s.frames.take 1) = .ok (some (0,i,o))) :
    Resolves (deeper (n + 1)) s (.column none name false) o.affinity (place 0 i) := by
  refine ⟨some o.name,?_⟩
  change column (deeper n) s none name false = _
  simp only [column,found,bind,Except.bind]
  rfl

theorem resolvesPrefixed {op : Prefix} (other : op ≠ .keep) (inner : Resolves (deeper n) s e a p) :
    Resolves (deeper (n + 1)) s (.prefixed op e) .none fun c => Operation.prefixed op (p c) := by
  obtain ⟨column,resolved⟩ := inner
  refine ⟨none,?_⟩
  change term (deeper n) s (.prefixed op e) = _
  rw [term,resolved]
  simp only [bind,Except.bind,pure,Except.pure,if_neg other]

theorem resolvesInfixed {op : Infix} (left : Resolves (deeper n) s e a p)
    (right : Resolves (deeper n) s e' b q) :
    Resolves (deeper (n + 1)) s (.infixed op e e') .none fun c =>
      let met := if Operation.isComparison op then Affinity.meet a b (p c) (q c) else (p c,q c)
      Operation.infixed op met.1 met.2 := by
  obtain ⟨_,resolved⟩ := left
  obtain ⟨_,resolved'⟩ := right
  refine ⟨none,?_⟩
  change term (deeper n) s (.infixed op e e') = _
  rw [term,resolved,resolved']
  rfl

end Resolution

section Order
variable {α : Type}

theorem insertBeforePerm (before : α → α → Bool) (x : α) (xs : List α) :
    (insertBefore before x xs).Perm (x :: xs) := by
  induction xs with
  | nil => exact .refl _
  | cons y xs ih =>
    rw [insertBefore]
    split
    · exact (ih.cons y).trans (.swap x y xs)
    · exact .refl _

theorem sortedPerm (compare : α → α → Ordering) (xs : List α) : (sorted compare xs).Perm xs := by
  induction xs with
  | nil => exact .refl _
  | cons x xs ih => exact (insertBeforePerm _ x _).trans (ih.cons x)

theorem insertBeforeMap {β : Type} (before : β → β → Bool) (f : α → β) (x : α) (xs : List α) :
    insertBefore before (f x) (xs.map f) = (insertBefore (fun y x => before (f y) (f x)) x xs).map f := by
  induction xs with
  | nil => rfl
  | cons y xs ih =>
    rw [List.map_cons,insertBefore,insertBefore,ih]
    split <;> rfl

theorem sortedMap {β : Type} (compare : β → β → Ordering) (f : α → β) (xs : List α) :
    sorted compare (xs.map f) = (sorted (fun x y => compare (f x) (f y)) xs).map f := by
  induction xs with
  | nil => rfl
  | cons x xs ih =>
    have step (zs : List α) := insertBeforeMap (fun y x => compare y x = .lt) f x zs
    rw [sorted] at ih ⊢
    rw [List.map_cons,List.foldr_cons,ih,step]
    rfl

end Order

theorem filterAuxTotal {ε α : Type} (p : α → Bool) (xs kept : List α) :
    xs.filterAuxM (fun x => (.ok (p x) : Except ε Bool)) kept = .ok ((xs.filter p).reverse ++ kept) := by
  induction xs generalizing kept with
  | nil => rfl
  | cons x xs ih =>
    rw [List.filterAuxM,List.filter_cons]
    cases p x with
    | false => exact ih kept
    | true =>
      rw [if_pos rfl,List.reverse_cons,List.append_assoc]
      exact ih (x :: kept)

theorem filterTotal {ε α : Type} (p : α → Bool) (xs : List α) :
    xs.filterM (fun x => (.ok (p x) : Except ε Bool)) = .ok (xs.filter p) := by
  rw [List.filterM,filterAuxTotal,List.append_nil]
  exact congrArg Except.ok (List.reverse_reverse _)

def alone (row : List Value) : Context := ⟨[row],[]⟩

def holdsFor (condition : Context → Value) (row : List Value) : Bool :=
  (condition (alone row)).truth = some true

section Rows
variable {a : Affinity} {label : Option String} {p : Context → Value}

theorem satisfied (rows : List (List Value)) :
    satisfying (some ⟨a,label,false,fun c => .ok (p c)⟩) (rows.map fun row => [row]) =
      .ok ((rows.filter (holdsFor p)).map fun row => [row]) := by
  refine (filterTotal (fun r : Rows => (p ⟨r,[]⟩).truth = some true) _).trans ?_
  rw [List.filter_map]
  rfl

theorem resultsAndKeys (rows : List (List Value)) :
    resultRows false [⟨a,label,false,fun c => .ok (p c)⟩] [⟨a,label,false,fun c => .ok (p c)⟩]
        ((rows.map fun row => [row]).map fun r => ⟨r,[]⟩) =
      .ok (rows.map fun row => ([p (alone row)],[p (alone row)])) := by
  rw [resultRows,List.map_map,List.mapM_map]
  exact congrArg (· >>= _) (List.mapM_pure (m := Except Fault))

end Rows

def columnQuery (table name : String) (condition : Expr) : Query :=
  .mk [] (.select false [.value (.column none name false) none name]
    [.mk (.table table none) false false none []] (some condition) [] none) []
    [(.column none name false,false)] none none

section Column
variable {s : Store} {t : Table} {source name : String} {condition : Expr} {frame : Frame} {i n : Nat}
  {o : Origin} {a : Affinity} {p : Context → Value}

theorem columnSource (found : s.table? source = some t)
    (framed : named source (t.columns.map fun c => ⟨none,c.name,c.affinity,false⟩) = frame) :
    (deeper (n + 1)).sources ⟨s,[],[],[],false⟩ [.mk (.table source none) false false none []] =
      .ok ⟨frame,fun _ => .ok t.rows⟩ := by
  have deeper : (deeper (n + 1)).sources = sources (deeper n) := rfl
  simp only [deeper,sources,Plan.source,table,List.find?,found,bind,Except.bind,pure,Except.pure,Option.getD,
    framed,List.foldlM]

theorem columnTermIn (here : inFrames none name 0 [frame] = .ok (some (0,i,o))) (grouping : Bool) :
    (deeper (n + 1)).term ⟨s,[],[frame],[],grouping⟩ (.column none name false) =
      .ok (columnTerm 0 i o) := by
  change column (deeper n) _ none name false = _
  simp only [column,List.take,here,bind,Except.bind]
  rfl

theorem columnSelect (found : s.table? source = some t)
    (framed : named source (t.columns.map fun c => ⟨none,c.name,c.affinity,false⟩) = frame)
    (here : inFrames none name 0 [frame] = .ok (some (0,i,o)))
    (resolves : Resolves (deeper (n + 1)) ⟨s,[],[frame],[],false⟩ condition a p) :
    ∃ selection, select (deeper (n + 1)) ⟨s,[],[],[],false⟩
        (.select false [.value (.column none name false) none name]
          [.mk (.table source none) false false none []] (some condition) [] none)
        [.column none name false] = .ok selection ∧
      selection.columns = [⟨none,o.name,o.affinity,false⟩] ∧
      selection.rows [] = .ok ((t.rows.filter (holdsFor p)).map fun row =>
        ([place 0 i (alone row)],[place 0 i (alone row)])) := by
  obtain ⟨_,resolved⟩ := resolves
  -- no result needs a group, so that the rows that satisfy the condition are the contexts
  simp only [select,columnSource found framed,columnTermIn here,resolved,results,clauseTerms,resultTerm,
    columnTerm,bind,Except.bind,pure,Except.pure,Functor.map,Except.map,Option.map,Option.bind,Option.mapM,
    Option.any,Option.or,Option.getD,Option.toList,List.mapM,List.mapM.loop,List.zipIdx,List.filterMap,
    List.flatten,List.find?,List.reverse,List.reverseAux,List.append,List.append_nil,List.nil_append,
    List.cons_append,List.any,List.map,List.isEmpty,Bool.not_true,Bool.or_false,Bool.false_eq_true,if_false]
  refine ⟨_,rfl,rfl,?_⟩
  simp only [satisfied,resultsAndKeys]

theorem columnQueryRun (found : s.table? source = some t)
    (framed : named source (t.columns.map fun c => ⟨none,c.name,c.affinity,false⟩) = frame)
    (here : inFrames none name 0 [frame] = .ok (some (0,i,o)))
    (resolves : Resolves (deeper (n + 1)) ⟨s,[],[frame],[],false⟩ condition a p) :
    ∃ rows : List (List Value), (columnQuery source name condition).run (n + 2) s =
        .ok (rows.map fun row => [(o.name,place 0 i (alone row))]) ∧
      rows.Perm (t.rows.filter (holdsFor p)) := by
  obtain ⟨selection,selected,columns,rows⟩ := columnSelect found framed here resolves
  have deeper : (deeper (n + 2)).query = query (Plan.deeper (n + 1)) := rfl
  let key (row : List Value) := [place 0 i (alone row)]
  refine ⟨_,?_,sortedPerm (fun x y => compareKeys [false] (key x) (key y)) _⟩
  rw [columnQuery,Query.run,deeper]
  simp only [query,addTables,combined,selected,columns,rows,sortedMap,cut,bind,Except.bind,pure,Except.pure,
    Option.mapM,Option.getD,List.foldlM,List.isEmpty,List.map,List.map_map,if_true,Int.toNat_zero,
    List.drop_zero]
  rfl

end Column
end Querent.Sqlite.Plan
