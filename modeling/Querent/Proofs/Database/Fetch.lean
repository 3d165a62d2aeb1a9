import Querent.World

/-! What comes of taking rows from a feed. The rows that were taken so far are told by the set that they
are in, and one more row than there is room for is all that is ever looked at. -/
namespace Querent
open Database

namespace Database
variable {ε ν : Type}

namespace Feed

def rows : Feed ε ν → List (Cells ν)
  | .ok cells :: rest => cells :: rows rest
  | _ => []

def fault? : Feed ε ν → Option ε
  | .ok _ :: rest => fault? rest
  | .error fault :: _ => some fault
  | [] => none

def shown (decode : ν → Json) (feed : Feed ε ν) : Feed ε Json :=
  feed.map (·.map fun cells => cells.map fun cell => (cell.1,decode cell.2))

end Feed

def Even (rows : List (Cells ν)) : Prop := [] ∈ rows → ∀ cells ∈ rows, cells = []

def headings (rows : List (Cells ν)) : List String :=
  ((rows.map Cells.names).find? (!·.isEmpty)).getD []

theorem headingsSnoc (rows : List (Cells ν)) (cells : Cells ν) :
    headings (rows ++ [cells]) = if (headings rows).isEmpty then cells.names else headings rows := by
  unfold headings
  rw [List.map_append,List.find?_append]
  cases found : (rows.map Cells.names).find? (!·.isEmpty) with
  | none => cases cells <;> rfl
  | some names =>
    have some_ : names.isEmpty = false := by simpa using List.find?_some found
    simp [some_]

theorem headingsEven {rows : List (Cells ν)} (even : Even rows) :
    headings rows = (rows.head?.map Cells.names).getD [] := by
  cases rows with
  | nil => rfl
  | cons cells rest =>
    cases cells with
    | cons cell cells => rfl
    | nil =>
      have none : ((([] : Cells ν) :: rest).map Cells.names).find? (!·.isEmpty) = none := by
        simp only [List.find?_eq_none,List.mem_map]
        rintro _ ⟨cells,member,rfl⟩
        rw [even List.mem_cons_self cells member]
        exact Bool.false_ne_true
      simp only [headings,none]
      rfl

theorem evenTake {rows : List (Cells ν)} (even : Even rows) (n : Nat) : Even (rows.take n) :=
  fun bare _ member => even (List.mem_of_mem_take bare) _ (List.mem_of_mem_take member)

structure Filled (decode : ν → Json) (taken : List (Cells ν)) (r : ResultSet) : Prop where
  columns : r.columns = headings taken
  rows : r.rows = taken.map (record decode)
  unmarked : r.truncated = false

section Loop
variable {decode : ν → Json} {maxRows : Nat} {taken : List (Cells ν)} {r : ResultSet}

theorem filledEmpty (decode : ν → Json) : Filled decode [] .empty := ⟨rfl,rfl,rfl⟩

theorem Filled.size (filled : Filled decode taken r) : r.size = taken.length := by
  rw [ResultSet.size,filled.rows,List.length_map]

theorem pushTaken (filled : Filled decode taken r) (room : taken.length < maxRows) (cells : Cells ν) :
    ∃ r', push maxRows r cells.names (record decode cells) = (r',true) ∧
      Filled decode (taken ++ [cells]) r' := by
  refine ⟨_,if_neg (by rw [filled.size]; omega),?_,?_,filled.unmarked⟩
  · rw [headingsSnoc,filled.columns]
  · rw [filled.rows,List.map_append]
    rfl

theorem pushFull (filled : Filled decode taken r) (full : maxRows ≤ taken.length) (columns : List String)
    (row : Row) : push maxRows r columns row = ({ r with truncated := true },false) :=
  if_pos (by rw [filled.size]; exact full)

inductive Collected (decode : ν → Json) (maxRows : Nat) (rows : List (Cells ν)) :
    Option ε → Except ε ResultSet → Prop where
  | failed {fault} (few : rows.length ≤ maxRows) : Collected decode maxRows rows (some fault) (.error fault)
  | whole {kept} (few : rows.length ≤ maxRows) (filled : Filled decode rows kept) :
      Collected decode maxRows rows none (.ok kept)
  | full {fault kept} (more : maxRows < rows.length)
      (filled : Filled decode (rows.take maxRows) kept) :
      Collected decode maxRows rows fault (.ok { kept with truncated := true })

theorem fillCollected (filled : Filled decode taken r) (within : taken.length ≤ maxRows)
    (feed : Feed ε ν) :
    Collected decode maxRows (taken ++ feed.rows) feed.fault? (fill decode maxRows r feed) := by
  induction feed generalizing taken r with
  | nil =>
    rw [show Feed.rows ([] : Feed ε ν) = [] from rfl,List.append_nil]
    exact .whole within filled
  | cons item rest ih =>
    cases item with
    | error fault =>
      rw [show Feed.rows (.error fault :: rest) = [] from rfl,List.append_nil]
      exact .failed within
    | ok cells =>
      simp only [fill]
      rcases Nat.lt_or_eq_of_le within with room | full
      · obtain ⟨r',pushed,filled'⟩ := pushTaken filled room cells
        have within' : (taken ++ [cells]).length ≤ maxRows := by
          rw [List.length_append]
          exact room
        have more := ih filled' within'
        rw [List.append_assoc] at more
        rw [pushed]
        exact more
      · rw [pushFull filled (Nat.le_of_eq full.symm)]
        refine .full ?_ ?_
        · simp only [Feed.rows,List.length_append,List.length_cons]
          omega
        · rw [← full,List.take_left]
          exact filled

theorem collected (decode : ν → Json) (maxRows : Nat) (feed : Feed ε ν) :
    Collected decode maxRows feed.rows feed.fault? (collect decode maxRows feed) :=
  fillCollected (filledEmpty decode) (Nat.zero_le _) feed

theorem collectError {feed : Feed ε ν} {fault : ε} :
    collect decode maxRows feed = .error fault ↔
      feed.fault? = some fault ∧ feed.rows.length ≤ maxRows := by
  have collected := collected decode maxRows feed
  generalize collect decode maxRows feed = outcome at collected ⊢
  generalize feed.fault? = found at collected ⊢
  cases collected with
  | failed few => simp [few]
  | whole few => simp
  | full more =>
    have notFew : ¬ feed.rows.length ≤ maxRows := by omega
    simp [notFew]

theorem collectOk {feed : Feed ε ν} {kept : ResultSet} (ok : collect decode maxRows feed = .ok kept) :
    kept.columns = headings (feed.rows.take maxRows) ∧
      kept.rows = (feed.rows.take maxRows).map (record decode) ∧
      (kept.truncated = true ↔ maxRows < feed.rows.length) := by
  have collected := collected decode maxRows feed
  rw [ok] at collected
  generalize feed.fault? = found at collected
  cases collected with
  | whole few filled =>
    have notMore : ¬ maxRows < feed.rows.length := by omega
    rw [List.take_of_length_le few]
    exact ⟨filled.columns,filled.rows,by simp [filled.unmarked,notMore]⟩
  | full more filled => exact ⟨filled.columns,filled.rows,by simp [more]⟩

theorem recordShown (decode : ν → Json) (cells : Cells ν) :
    record id (cells.map fun cell => (cell.1,decode cell.2)) = record decode cells := by
  rw [record,List.map_map]
  rfl

theorem namesShown (decode : ν → Json) (cells : Cells ν) :
    Cells.names (cells.map fun cell => (cell.1,decode cell.2)) = cells.names := by
  simp [Cells.names]

theorem fillShown (filled : Filled decode taken r) (within : taken.length ≤ maxRows) (feed : Feed ε ν) :
    fill decode maxRows r feed =
      fill id maxRows r ((feed.shown decode).take (maxRows - taken.length + 1)) := by
  induction feed generalizing taken r with
  | nil => rfl
  | cons item rest ih =>
    cases item with
    | error fault => rfl
    | ok cells =>
      simp only [Feed.shown,List.map_cons,List.take_succ_cons,Except.map,fill,namesShown,recordShown]
      rcases Nat.lt_or_eq_of_le within with room | full
      · obtain ⟨r',pushed,filled'⟩ := pushTaken filled room cells
        have within' : (taken ++ [cells]).length ≤ maxRows := by
          rw [List.length_append]
          exact room
        have more := ih filled' within'
        have left : maxRows - (taken ++ [cells]).length + 1 = maxRows - taken.length := by
          simp only [List.length_append,List.length_singleton]
          omega
        rw [left] at more
        rw [pushed]
        exact more
      · rw [pushFull filled (Nat.le_of_eq full.symm)]

theorem collectShown (decode : ν → Json) (maxRows : Nat) (feed : Feed ε ν) :
    collect decode maxRows feed = collect id maxRows ((feed.shown decode).take (maxRows + 1)) :=
  fillShown (filledEmpty decode) (Nat.zero_le _) feed

end Loop
end Database

namespace World
variable {w : World} {l : Ledger} {h : Handle} {sql : String} {maxRows : Nat}

theorem fetchOk {r : ResultSet} :
    w.fetch l h sql maxRows = .ok r ↔ collect Cell.toJson maxRows (w.feed l h sql) = .ok r := by
  unfold fetch
  cases collect Cell.toJson maxRows (w.feed l h sql) <;> simp

theorem fetchError {failure : Failure} : w.fetch l h sql maxRows = .error failure ↔
    ∃ fault, collect Cell.toJson maxRows (w.feed l h sql) = .error fault ∧
      failure = .execution fault := by
  unfold fetch
  cases collect Cell.toJson maxRows (w.feed l h sql) <;> simp [eq_comm]

structure Fetches (w : World) (l : Ledger) (h : Handle) (sql : String) (maxRows : Nat) : Prop where
  fails : ∀ {failure}, w.fetch l h sql maxRows = .error failure ↔
    ∃ fault, (w.feed l h sql).fault? = some fault ∧ (w.feed l h sql).rows.length ≤ maxRows ∧
      failure = .execution fault
  succeeds : (w.feed l h sql).fault? = none ∨ maxRows < (w.feed l h sql).rows.length →
    ∃ r, w.fetch l h sql maxRows = .ok r
  rows : ∀ {r}, w.fetch l h sql maxRows = .ok r →
    r.rows = ((w.feed l h sql).rows.take (min (w.feed l h sql).rows.length maxRows)).map
      (record Cell.toJson)
  truncated : ∀ {r}, w.fetch l h sql maxRows = .ok r →
    (r.truncated = true ↔ maxRows < (w.feed l h sql).rows.length)
  headings : ∀ {r}, w.fetch l h sql maxRows = .ok r →
    r.columns = Database.headings ((w.feed l h sql).rows.take maxRows)
  columns : ∀ {r}, w.fetch l h sql maxRows = .ok r → Even (w.feed l h sql).rows →
    r.columns = (((w.feed l h sql).rows.take maxRows).head?.map Cells.names).getD []
  unseen : ∀ {w' : World} {l' h' sql'},
    ((w'.feed l' h' sql').shown Cell.toJson).take (maxRows + 1) =
      ((w.feed l h sql).shown Cell.toJson).take (maxRows + 1) →
    w'.fetch l' h' sql' maxRows = w.fetch l h sql maxRows

theorem fetchesWithinRoom (w : World) (l : Ledger) (h : Handle) (sql : String) (maxRows : Nat) :
    Fetches w l h sql maxRows := by
  refine ⟨?_,?_,?_,?_,?_,?_,?_⟩
  · intro failure
    simp only [fetchError,collectError,and_assoc]
  · intro served
    cases outcome : w.fetch l h sql maxRows with
    | ok r => exact ⟨r,rfl⟩
    | error failure =>
      obtain ⟨fault,failed,-⟩ := fetchError.mp outcome
      obtain ⟨found,few⟩ := collectError.mp failed
      rcases served with none | more
      · rw [none] at found
        contradiction
      · exact absurd more (Nat.not_lt.mpr few)
  · intro r ok
    rw [Nat.min_comm,← List.take_eq_take_min]
    exact (collectOk (fetchOk.mp ok)).2.1
  · intro r ok
    exact (collectOk (fetchOk.mp ok)).2.2
  · intro r ok
    exact (collectOk (fetchOk.mp ok)).1
  · intro r ok even
    rw [(collectOk (fetchOk.mp ok)).1]
    exact headingsEven (evenTake even maxRows)
  · intro w' l' h' sql' same
    have agree : collect Cell.toJson maxRows (w'.feed l' h' sql') =
        collect Cell.toJson maxRows (w.feed l h sql) := by
      rw [collectShown,same,← collectShown]
    rw [fetch,fetch,agree]

theorem faultBehindLastRow :
    ∃ (w : World) (h : Handle) (r : ResultSet), (w.feed .empty h "SELECT n FROM t").rows.length = 2 ∧
      (w.feed .empty h "SELECT n FROM t").fault? = some .unreachable ∧
      Even (w.feed .empty h "SELECT n FROM t").rows ∧
      w.fetch .empty h "SELECT n FROM t" 1 = .ok r ∧
      r.columns = ["n"] ∧ r.rows = [[("n",.int 7)]] ∧ r.truncated = true := by
  let rows : Feed Fault (Cell .postgres) :=
    [.ok [("n",Postgres.Value.int4 7)], .ok [("n",Postgres.Value.null)], .error .unreachable]
  let w : World := ⟨⟨0,0⟩,.empty,fun _ _ => .ok (),fun _ _ => ⟨.ok [],fun _ => .ok []⟩,
    fun h _ => if same : h.engine = .postgres then same ▸ rows else []⟩
  let h : Handle := ⟨0,.postgres,"postgres://h/d"⟩
  have even : Even (w.feed .empty h "SELECT n FROM t").rows := by
    intro bare
    change [] ∈ [[("n",Postgres.Value.int4 7)], [("n",Postgres.Value.null)]] at bare
    simp at bare
  have fetches := fetchesWithinRoom w .empty h "SELECT n FROM t" 1
  obtain ⟨r,ok⟩ := fetches.succeeds (.inr (by decide))
  exact ⟨w,h,r,rfl,rfl,even,ok,fetches.columns ok even,fetches.rows ok,
    (fetches.truncated ok).mpr (by decide)⟩

end World
end Querent
