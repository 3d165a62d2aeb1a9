import Mathlib.Data.List.Induction
import Mathlib.Tactic.Tauto
import Querent.Sqlite.Script

/-! The rows of a query are as wide as it has columns, whatever is selected and from where. -/
namespace Querent.Sqlite
variable {ε α β : Type}

def Gives (p : α → Prop) (x : Except ε α) : Prop := ∀ a, x = .ok a → p a

theorem givesAny (x : Except ε α) : Gives (fun _ => True) x := fun _ _ => trivial

theorem givesOk {p : α → Prop} {a : α} (holds : p a) : Gives p (.ok a : Except ε α) := by
  rintro _ ⟨⟩
  exact holds

theorem givesError {p : α → Prop} (fault : ε) : Gives p (.error fault : Except ε α) := nofun

theorem givesBind {p : α → Prop} {q : β → Prop} {x : Except ε α} {f : α → Except ε β} (first : Gives p x)
    (next : ∀ a, p a → Gives q (f a)) : Gives q (x >>= f) := by
  cases x with
  | error fault => exact givesError fault
  | ok a => exact next a (first a rfl)

theorem givesWeaken {p q : α → Prop} {x : Except ε α} (gives : Gives p x) (weaker : ∀ a, p a → q a) :
    Gives q x := fun a ok => weaker a (gives a ok)

theorem givesMap {p : β → Prop} {f : α → Except ε β} {xs : List α} (each : ∀ x ∈ xs, Gives p (f x)) :
    Gives (fun ys => ys.length = xs.length ∧ ∀ y ∈ ys, p y) (xs.mapM f) := by
  induction xs with
  | nil => exact givesOk ⟨rfl,nofun⟩
  | cons x xs ih =>
    obtain ⟨first,others⟩ := List.forall_mem_cons.mp each
    rw [List.mapM_cons]
    refine givesBind first fun y holds => givesBind (ih others) fun ys more => givesOk ?_
    exact ⟨congrArg (· + 1) more.1,List.forall_mem_cons.mpr ⟨holds,more.2⟩⟩

theorem givesFold {p : β → Prop} {f : β → α → Except ε β} {xs : List α} {b : β}
    (step : ∀ x ∈ xs, ∀ b, p b → Gives p (f b x)) (start : p b) : Gives p (xs.foldlM f b) := by
  induction xs generalizing b with
  | nil => exact givesOk start
  | cons x xs ih =>
    obtain ⟨first,others⟩ := List.forall_mem_cons.mp step
    exact givesBind (first b start) fun c holds => ih others holds

namespace Plan

theorem memInsert {before : α → α → Bool} {x y : α} {xs : List α} :
    y ∈ insertBefore before x xs ↔ y = x ∨ y ∈ xs := by
  induction xs with
  | nil => simp [insertBefore]
  | cons z xs ih =>
    rw [insertBefore]
    split
    · rw [List.mem_cons,ih,List.mem_cons]
      tauto
    · rw [List.mem_cons]

theorem memSorted {compare : α → α → Ordering} {y : α} {xs : List α} : y ∈ sorted compare xs ↔ y ∈ xs := by
  induction xs with
  | nil => rfl
  | cons x xs ih =>
    rw [sorted,List.foldr_cons,← sorted,memInsert,ih,List.mem_cons]

theorem memAsSet {row : List Value} {rows : List (List Value)} (member : row ∈ asSet rows) : row ∈ rows := by
  have same := @memSorted _ (compareKeys []) row rows
  unfold asSet at member
  rw [← same]
  generalize sorted (compareKeys []) rows = ordered at member ⊢
  induction ordered with
  | nil => exact member
  | cons first ordered ih =>
    rw [List.foldr_cons] at member
    split at member
    · split at member
      · exact List.mem_cons_of_mem first (ih member)
      · exact (List.mem_cons.mp member).elim (· ▸ List.mem_cons_self) fun later =>
          List.mem_cons_of_mem first (ih later)
    · rw [List.mem_singleton] at member
      rw [member]
      exact List.mem_cons_self

theorem memDistinct {row : Keyed} {rows : List Keyed} (member : row ∈ distinctRows rows) : row ∈ rows := by
  induction rows using List.reverseRecOn with
  | nil => exact member
  | append_singleton rows last ih =>
    rw [distinctRows,List.foldl_append] at member
    simp only [List.foldl_cons,List.foldl_nil] at member
    split at member
    · exact List.mem_append_left [last] (ih member)
    · exact (List.mem_append.mp member).elim (fun early => List.mem_append_left [last] (ih early))
        (List.mem_append_right rows)

theorem memCombine {how : Combination} {row : List Value} {a b : List (List Value)}
    (member : row ∈ combine how a b) : row ∈ a ∨ row ∈ b := by
  cases how with
  | unionAll => exact List.mem_append.mp member
  | union => exact List.mem_append.mp (memAsSet member)
  | intersect => exact .inl (List.mem_filter.mp (memAsSet member)).1
  | except => exact .inl (List.mem_filter.mp (memAsSet member)).1

theorem memCut {limit offset : Option Int} {row : List Value} {rows : List (List Value)}
    (member : row ∈ cut limit offset rows) : row ∈ rows := by
  simp only [cut] at member
  split at member
  · split at member
    · exact List.mem_of_mem_drop member
    · exact List.mem_of_mem_drop (List.mem_of_mem_take member)
  · exact List.mem_of_mem_drop member

def Wide (columns : Frame) (rows : List (List Value)) : Prop := ∀ row ∈ rows, row.length = columns.length

structure WideSelection (s : Selection) : Prop where
  rows : ∀ around, Gives (fun rows => Wide s.columns (rows.map (·.1))) (s.rows around)

structure WideRelation (r : Relation) : Prop where
  rows : ∀ around, Gives (Wide r.columns) (r.rows around)

theorem wideKeyed {columns : Frame} {rows : List Keyed} (each : ∀ row ∈ rows, row.1.length = columns.length) :
    Wide columns (rows.map (·.1)) := by
  simpa [Wide] using fun row keys member => each (row,keys) member

theorem valuesWide (d : Deeper) (s : Scope) (rows : List (List Expr)) :
    Gives WideSelection (values d s rows) := by
  unfold values
  refine givesBind (givesAny _) fun terms _ => ?_
  dsimp only
  split
  · exact givesError _
  · rename_i even
    refine givesOk ⟨fun around a ok => ?_⟩
    have width : ∀ row ∈ terms, Gives
        (fun keyed : Keyed => keyed.1.length = (terms.head?.map List.length).getD 0)
        (do return (← row.mapM fun t : Term => t.value ⟨around,[]⟩,[])) := by
      intro row member
      have same : row.length = (terms.head?.map List.length).getD 0 := by
        by_contra other
        exact even (List.any_eq_true.mpr ⟨row,member,by simpa using other⟩)
      refine givesBind (givesMap fun _ _ => givesAny _) fun vs long => givesOk ?_
      exact long.1.trans same
    refine wideKeyed ?_
    simpa using (givesMap width a ok).2

theorem resultsWide (distinct : Bool) (terms keys : List Term) (cs : List Context) :
    Gives (fun rows => ∀ row ∈ rows, row.1.length = terms.length) (resultRows distinct terms keys cs) := by
  have each : ∀ c ∈ cs, Gives (fun keyed : Keyed => keyed.1.length = terms.length)
      (do return (← terms.mapM fun t => t.value c,← keys.mapM fun t => t.value c)) := by
    intro c _
    refine givesBind (givesMap fun _ _ => givesAny _) fun vs long => ?_
    exact givesBind (givesAny _) fun keys _ => givesOk long.1
  refine givesBind (givesMap each) fun rows wide => givesOk fun row member => ?_
  split at member
  · exact wide.2 row (memDistinct member)
  · exact wide.2 row member

theorem selectWide (d : Deeper) (outer : Scope) (core : Core) (order : List Expr) :
    Gives WideSelection (select d outer core order) := by
  cases core with
  | values rows => exact valuesWide d outer rows
  | select distinct items joins condition groups groupCondition =>
    unfold select
    refine givesBind (givesAny _) fun from_ _ => ?_
    refine givesBind (givesAny _) fun found _ => ?_
    refine givesBind (givesAny _) fun condition _ => ?_
    refine givesBind (givesAny _) fun groupTerms _ => ?_
    refine givesBind (givesAny _) fun groupCondition _ => ?_
    refine givesBind (givesAny _) fun keys _ => ?_
    refine givesBind (givesAny _) fun wanted _ => givesOk ⟨fun around => ?_⟩
    refine givesBind (givesAny _) fun rows _ => ?_
    refine givesBind (givesAny _) fun kept _ => ?_
    refine givesBind (givesAny _) fun contexts _ => ?_
    refine givesWeaken (resultsWide distinct _ keys contexts) fun rows wide => wideKeyed fun row member => ?_
    rw [wide row member,List.length_map,List.length_map]

theorem combinedWide (d : Deeper) (s : Scope) (first : Core) (rest : List (Combination × Core))
    (order : List Expr) : Gives WideSelection (combined d s first rest order) := by
  unfold combined
  split
  · exact selectWide d s first order
  · refine givesBind (selectWide d s first []) fun start startWide => ?_
    have othersWide : ∀ core ∈ rest, Gives (fun other : Combination × Selection =>
        WideSelection other.2 ∧ other.2.columns.length = start.columns.length) (do
          let next ← select d s core.2 []
          if next.columns.length ≠ start.columns.length then
            throw (.unionColumns (combinationName core.1))
          return (core.1,next)) := by
      intro core _
      refine givesBind (selectWide d s core.2 []) fun next wide => ?_
      split
      · exact givesError _
      · rename_i same
        exact givesOk ⟨wide,not_not.mp same⟩
    refine givesBind (givesMap othersWide) fun others wide => ?_
    refine givesBind (givesAny _) fun places _ => givesOk ⟨fun around => ?_⟩
    refine givesBind (startWide.rows around) fun rows first => ?_
    have all : Gives (Wide start.columns) (others.foldlM (fun rows other => do
        return combine other.1 rows ((← other.2.rows around).map (·.1))) (rows.map (·.1))) := by
      refine givesFold (fun other member rows wide' => ?_) first
      obtain ⟨next,same⟩ := wide.2 other member
      refine givesBind (next.rows around) fun more nextWide => givesOk fun row member => ?_
      rcases memCombine member with before | after
      · exact wide' row before
      · exact (nextWide row after).trans same
    refine givesBind all fun rows wide => givesOk ?_
    rw [List.map_map]
    change Wide start.columns (rows.map id)
    rw [List.map_id]
    exact wide

theorem queryWide (d : Deeper) (outer : Scope) (q : Query) : Gives WideRelation (query d outer q) := by
  cases q with
  | mk tables first rest order limit offset =>
    unfold query
    refine givesBind (givesAny _) fun s _ => ?_
    refine givesBind (combinedWide d s first rest _) fun selection wide => ?_
    refine givesBind (givesAny _) fun limit _ => ?_
    refine givesBind (givesAny _) fun offset _ => givesOk ⟨fun around => ?_⟩
    refine givesBind (wide.rows around) fun rows wide => ?_
    refine givesBind (givesAny _) fun limit _ => ?_
    refine givesBind (givesAny _) fun offset _ => givesOk fun row member => ?_
    obtain ⟨keyed,found,rfl⟩ := List.mem_map.mp (memCut member)
    exact wide _ (List.mem_map_of_mem (memSorted.mp found))

end Plan

def Named (rows : List (List (String × Value))) : Prop := ∃ names, ∀ row ∈ rows, row.map (·.1) = names

theorem queryNamed (levels : Nat) (s : Store) (q : Query) : Gives Named (q.run levels s) := by
  have wide : Gives Plan.WideRelation ((Plan.deeper levels).query ⟨s,[],[],[],false⟩ q) := by
    cases levels with
    | zero => exact givesError _
    | succ levels => exact Plan.queryWide (Plan.deeper levels) _ q
  refine givesBind wide fun r wide => givesBind (wide.rows []) fun rows wide => givesOk ?_
  refine ⟨r.columns.map (·.name),fun row member => ?_⟩
  obtain ⟨values,found,rfl⟩ := List.mem_map.mp member
  refine List.map_fst_zip (Nat.le_of_eq ?_)
  rw [List.length_map,wide values found]

theorem statementNamed (levels : Nat) (s : Store) (statement : Statement) :
    Gives Named (statement.run levels s) := by
  have none : Named [] := ⟨[],nofun⟩
  cases statement with
  | query q => exact queryNamed levels s q
  | change table => exact givesError _
  | create table unlessThere =>
    rw [Statement.run]
    split
    · exact givesError _
    · split
      · exact givesOk none
      · exact givesError _
  | drop table ifThere =>
    rw [Statement.run]
    split
    · exact givesError _
    · split
      · exact givesOk none
      · exact givesError _

namespace Script

def Lone (sql : String) : Prop :=
  ∀ first rest, (Reader.nextStatement.run (opened sql).1).run (opened sql).2 = .ok (some first,rest) →
    ∀ second left, (Reader.nextStatement.run (opened sql).1).run rest ≠ .ok (some second,left)

theorem runNone {s : Store} {page : Page} {ls : List Lexeme} (n : Nat)
    (none : ∀ statement left, (Reader.nextStatement.run page).run ls ≠ .ok (some statement,left))
    (row : List (String × Value)) : .ok row ∉ runFrom s page n ls := by
  cases n with
  | zero => exact List.not_mem_nil
  | succ n =>
    rw [runFrom]
    split
    · simp
    · simp
    · rename_i read
      exact absurd read (none _ _)

theorem loneNamed {sql : String} (lone : Lone sql) (s : Store) :
    ∃ names, ∀ row, .ok row ∈ run s sql → row.map (·.1) = names := by
  simp only [run,runFrom]
  split
  · exact ⟨[],by simp⟩
  · exact ⟨[],by simp⟩
  · rename_i first rest read
    split
    · exact ⟨[],by simp⟩
    · rename_i rows ran
      obtain ⟨names,named⟩ := statementNamed _ s first rows ran
      refine ⟨names,fun row member => ?_⟩
      rcases List.mem_append.mp member with here | later
      · obtain ⟨_,found,same⟩ := List.mem_map.mp here
        cases same
        exact named row found
      · exact absurd later (runNone _ (lone first rest read) row)

end Script
end Querent.Sqlite
