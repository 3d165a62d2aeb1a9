import Querent.Database.Mapper
import Querent.Proofs.Json.Strings
import Querent.Proofs.Schema.Insertion
import Querent.World

/-! What a schema is read from. The columns of every table that is listed are in it, and nothing else; the
first table that cannot be read leaves no schema. -/
namespace Querent
open Database (Catalog Fault Failure Handle Ledger Mapper Statement Cells textAt)
open Dictionary (latest latestSnoc)

section Reading
variable {ε : Type} {read : String → Except ε Columns} {tables : List String} {s s' : Schema}

def FailsFirst (read : String → Except ε Columns) (tables : List String) (fault : ε) : Prop :=
  ∃ before table after, tables = before ++ table :: after ∧
    (∀ t ∈ before, ∃ columns, read t = .ok columns) ∧ read table = .error fault

structure Holds (read : String → Except ε Columns) (tables : List String) (s : Schema) : Prop where
  listed : ∀ name ∈ tables, ∃ columns, read name = .ok columns ∧ s.table? name = some columns
  others : ∀ name, name ∉ tables → s.table? name = none

theorem failsHere {table : String} {fault other : ε} (failed : read table = .error other) :
    FailsFirst read (table :: tables) fault ↔ other = fault := by
  constructor
  · rintro ⟨before,failing,after,split,readable,failed'⟩
    cases before with
    | nil =>
      obtain ⟨rfl,rfl⟩ := List.cons.inj split
      rw [failed] at failed'
      exact Except.error.inj failed'
    | cons first before =>
      obtain ⟨rfl,rfl⟩ := List.cons.inj split
      obtain ⟨columns,ok⟩ := readable table List.mem_cons_self
      rw [failed] at ok
      contradiction
  · rintro rfl
    exact ⟨[],table,tables,rfl,fun _ member => (List.not_mem_nil member).elim,failed⟩

theorem failsCons {table : String} {columns : Columns} {fault : ε} (ok : read table = .ok columns) :
    FailsFirst read (table :: tables) fault ↔ FailsFirst read tables fault := by
  constructor
  · rintro ⟨before,failing,after,split,readable,failed⟩
    cases before with
    | nil =>
      obtain ⟨rfl,rfl⟩ := List.cons.inj split
      rw [ok] at failed
      contradiction
    | cons first before =>
      obtain ⟨rfl,rfl⟩ := List.cons.inj split
      exact ⟨before,failing,after,rfl,fun t member => readable t (List.mem_cons_of_mem _ member),failed⟩
  · rintro ⟨before,failing,after,rfl,readable,failed⟩
    refine ⟨table :: before,failing,after,rfl,fun t member => ?_,failed⟩
    rcases List.mem_cons.mp member with rfl | member
    · exact ⟨columns,ok⟩
    · exact readable t member

theorem holdsFound {name : String} {columns : Columns} (holds : Holds read tables s)
    (found : s.table? name = some columns) : name ∈ tables ∧ read name = .ok columns := by
  by_cases listed : name ∈ tables
  · obtain ⟨told,ok,found'⟩ := holds.listed name listed
    rw [found] at found'
    exact ⟨listed,Option.some.inj found' ▸ ok⟩
  · rw [holds.others name listed] at found
    contradiction

theorem holdsUnique (holds : Holds read tables s) (holds' : Holds read tables s') : s = s' := by
  refine Schema.extTable fun name => ?_
  by_cases listed : name ∈ tables
  · obtain ⟨columns,ok,found⟩ := holds.listed name listed
    obtain ⟨columns',ok',found'⟩ := holds'.listed name listed
    rw [ok] at ok'
    rw [found,found',Except.ok.inj ok']
  · rw [holds.others name listed,holds'.others name listed]

theorem holdsSame {read' : String → Except ε Columns} {tables' : List String}
    (members : ∀ name, name ∈ tables ↔ name ∈ tables')
    (same : ∀ name ∈ tables, read name = read' name) (holds : Holds read tables s) : Holds read' tables' s where
  listed := by
    intro name member
    have member := (members name).mpr member
    rw [← same name member]
    exact holds.listed name member
  others := fun name absent => holds.others name (absent ∘ (members name).mp)

end Reading

namespace Database.Catalog
variable {c : Catalog} {s s' : Schema} {tables : List String} {fault : Fault}

theorem addTablesFails (s : Schema) (tables : List String) (fault : Fault) :
    c.addTables s tables = .error fault ↔ FailsFirst c.columnsOf tables fault := by
  induction tables generalizing s with
  | nil =>
    constructor
    · intro failed
      cases failed
    · rintro ⟨before,table,after,split,-⟩
      simp at split
  | cons table tables ih =>
    rw [addTables]
    cases ok : c.columnsOf table with
    | error other => exact Except.error.injEq other fault ▸ (failsHere ok).symm
    | ok columns => exact (ih (s.insertTable table columns)).trans (failsCons ok).symm

theorem addTablesTold (added : c.addTables s tables = .ok s') (name : String) :
    (name ∈ tables → ∃ columns, c.columnsOf name = .ok columns ∧ s'.table? name = some columns) ∧
      (name ∉ tables → s'.table? name = s.table? name) := by
  induction tables generalizing s with
  | nil =>
    cases added
    exact ⟨fun member => (List.not_mem_nil member).elim,fun _ => rfl⟩
  | cons table tables ih =>
    rw [addTables] at added
    obtain ⟨columns,ok,added⟩ := Json.Reader.bindOk added
    obtain ⟨among,beside⟩ := ih added
    have inserted : (s.insertTable table columns).table? name =
        if name = table then some columns else s.table? name := Dictionary.getInsert _ _ _ _
    constructor
    · intro member
      by_cases later : name ∈ tables
      · exact among later
      · have here : name = table := (List.mem_cons.mp member).resolve_right later
        refine ⟨columns,here ▸ ok,?_⟩
        rw [beside later,inserted,if_pos here]
    · intro absent
      obtain ⟨different,later⟩ := not_or.mp (mt List.mem_cons.mpr absent)
      rw [beside later,inserted,if_neg different]

theorem addTablesHolds (added : c.addTables .empty tables = .ok s) : Holds c.columnsOf tables s where
  listed := fun name => (addTablesTold added name).1
  others := fun name => (addTablesTold added name).2

theorem schemaFails (fault : Fault) : c.schema = .error fault ↔
    c.tables = .error fault ∨
      ∃ tables, c.tables = .ok tables ∧ FailsFirst c.columnsOf tables fault := by
  rw [schema]
  cases listed : c.tables with
  | error other => simp [bind,Except.bind]
  | ok tables => simpa [bind,Except.bind] using addTablesFails .empty tables fault

theorem schemaHolds (s : Schema) : c.schema = .ok s ↔
    ∃ tables, c.tables = .ok tables ∧ Holds c.columnsOf tables s := by
  rw [schema]
  cases listed : c.tables with
  | error other => simp [bind,Except.bind]
  | ok tables =>
    constructor
    · exact fun added => ⟨tables,rfl,addTablesHolds added⟩
    · rintro ⟨_,same,holds⟩
      cases same
      cases added : c.addTables .empty tables with
      | ok s' =>
        rw [← holdsUnique (addTablesHolds added) holds]
        exact added
      | error fault =>
        -- no table that is held can be the one that fails
        obtain ⟨before,table,after,rfl,-,failed⟩ := (addTablesFails .empty tables fault).mp added
        obtain ⟨columns,ok,-⟩ := holds.listed table (by simp)
        rw [ok] at failed
        contradiction

end Database.Catalog

namespace Database.Mapper
variable {m : Mapper} {database table : String} {columns : Columns}
  {run : Statement → Except Fault (List (Cells (Option String)))}

theorem tablesAnswered {rows : List (Cells (Option String))} {tables : List String}
    (answered : run (m.tables database) = .ok rows)
    (read : rows.mapM (textAt m.tableName) = .ok tables) : (m.catalog database run).tables = .ok tables := by
  rw [catalog,answered]
  exact read

theorem columnsAnswered {rows : List (Cells (Option String))} {reported : List (String × String)}
    (answered : run (m.columns database table) = .ok rows) (read : rows.mapM m.columnAt = .ok reported) :
    (m.catalog database run).columns table = .ok (reported.map fun c => (c.1,m.spell c.2)) := by
  simp only [catalog,answered,read,bind,Except.bind]
  rfl

theorem columnsFailed {fault : Fault} (failed : run (m.columns database table) = .error fault) :
    (m.catalog database run).columns table = .error fault := by
  simp only [catalog,failed,bind,Except.bind]

theorem latestSpelt (spell : String → String) (reported : List (String × String)) (column : String) :
    latest (reported.map fun c => (c.1,spell c.2)) column = (latest reported column).map spell := by
  induction reported using List.reverseRecOn with
  | nil => rfl
  | append_singleton reported last ih =>
    rw [List.map_append,List.map_singleton,latestSnoc,latestSnoc,ih]
    split <;> rfl

theorem columnsReported : (m.catalog database run).columnsOf table = .ok columns ↔
    ∃ rows reported, run (m.columns database table) = .ok rows ∧ rows.mapM m.columnAt = .ok reported ∧
      ∀ column, columns.get? column = (latest reported column).map m.spell := by
  have told (reported : List (String × String)) (column : String) :
      (Dictionary.ofList (reported.map fun c => (c.1,m.spell c.2))).get? column =
        (latest reported column).map m.spell := by
    rw [Dictionary.getOfList,latestSpelt]
  cases answered : run (m.columns database table) with
  | error fault => simp [Catalog.columnsOf,columnsFailed answered,Except.map]
  | ok rows =>
    cases read : rows.mapM m.columnAt with
    | error fault => simp [Catalog.columnsOf,catalog,answered,read,bind,Except.bind,Except.map]
    | ok reported =>
      rw [Catalog.columnsOf,columnsAnswered answered read,Except.map,Except.ok.injEq]
      constructor
      · rintro rfl
        exact ⟨rows,reported,rfl,read,told reported⟩
      · rintro ⟨_,reported',⟨⟩,read',same⟩
        rw [read] at read'
        cases read'
        exact Dictionary.extGet fun column => (told reported column).trans (same column).symm

end Database.Mapper

theorem Engine.spells (engine : Engine) : engine.mapper.spell =
    fun type => if engine = .sqlite then Text.lowercased type else type := by
  cases engine <;> rfl

namespace World
variable {w : World} {l : Ledger} {reader : Engine} {h : Handle} {database : String}

theorem introspectedOk {α : Type} {x : Except Fault α} {y : α} : introspected x = .ok y ↔ x = .ok y := by
  cases x <;> simp [introspected]

theorem introspectedError {α : Type} {x : Except Fault α} {failure : Failure} :
    introspected x = .error failure ↔ ∃ fault, x = .error fault ∧ .introspection fault = failure := by
  cases x <;> simp [introspected]

structure Mapped (w : World) (l : Ledger) (reader : Engine) (h : Handle) (database : String) : Prop where
  fails : ∀ failure, w.schema l reader h database = .error failure ↔
    w.listTables l reader h database = .error failure ∨
      ∃ tables, w.listTables l reader h database = .ok tables ∧
        FailsFirst (w.listColumns l reader h database) tables failure
  holds : ∀ s, w.schema l reader h database = .ok s ↔
    ∃ tables, w.listTables l reader h database = .ok tables ∧
      Holds (w.listColumns l reader h database) tables s
  unordered : ∀ (w' : World) l' reader' h' database' tables tables',
    w.listTables l reader h database = .ok tables →
    w'.listTables l' reader' h' database' = .ok tables' →
    (∀ name, name ∈ tables ↔ name ∈ tables') → (∀ name ∈ tables,
      w.listColumns l reader h database name = w'.listColumns l' reader' h' database' name) →
    ∀ s, w.schema l reader h database = .ok s ↔ w'.schema l' reader' h' database' = .ok s
  columns : ∀ run, w.catalog h database = h.engine.mapper.catalog database run →
    reader = h.engine → l.isClosed h = false → ∀ table columns,
    w.listColumns l reader h database table = .ok columns ↔ ∃ rows reported,
      run (h.engine.mapper.columns database table) = .ok rows ∧
      rows.mapM h.engine.mapper.columnAt = .ok reported ∧
      ∀ column, columns.get? column = (latest reported column).map fun type =>
        if h.engine = .sqlite then Text.lowercased type else type

theorem failsIntrospected {read : String → Except Fault Columns} {tables : List String}
    {failure : Failure} :
    FailsFirst (fun table => introspected (read table)) tables failure ↔
      ∃ fault, FailsFirst read tables fault ∧ .introspection fault = failure := by
  simp only [FailsFirst,introspectedOk,introspectedError]
  constructor
  · rintro ⟨before,table,after,split,readable,fault,failed,told⟩
    exact ⟨fault,⟨before,table,after,split,readable,failed⟩,told⟩
  · rintro ⟨fault,⟨before,table,after,split,readable,failed⟩,told⟩
    exact ⟨before,table,after,split,readable,fault,failed,told⟩

theorem holdsIntrospected {read : String → Except Fault Columns} {tables : List String} {s : Schema} :
    Holds (fun table => introspected (read table)) tables s ↔ Holds read tables s := by
  constructor <;>
    exact fun holds => ⟨by simpa only [introspectedOk] using holds.listed,holds.others⟩

theorem askedNone {failure : Failure} (refused : w.catalogFor l reader h database = .error failure) :
    w.schema l reader h database = .error failure ∧ w.listTables l reader h database = .error failure := by
  constructor
  · rw [schema,refused]
    rfl
  · rw [listTables,refused]
    rfl

theorem askedSome {c : Catalog} (given : w.catalogFor l reader h database = .ok c) :
    w.schema l reader h database = introspected c.schema ∧
      w.listTables l reader h database = introspected c.tables ∧
        w.listColumns l reader h database = fun table => introspected (c.columnsOf table) := by
  refine ⟨?_,?_,?_⟩
  · rw [schema,given]
    rfl
  · rw [listTables,given]
    rfl
  · funext table
    rw [listColumns,given]
    rfl

theorem schemaFails (failure : Failure) : w.schema l reader h database = .error failure ↔
    w.listTables l reader h database = .error failure ∨
      ∃ tables, w.listTables l reader h database = .ok tables ∧
        FailsFirst (w.listColumns l reader h database) tables failure := by
  cases given : w.catalogFor l reader h database with
  | error other =>
    obtain ⟨schema,tables⟩ := askedNone given
    simp [schema,tables]
  | ok c =>
    obtain ⟨schema,tables,columns⟩ := askedSome given
    rw [schema,tables,columns]
    simp only [introspectedError,introspectedOk,Catalog.schemaFails,failsIntrospected]
    constructor
    · rintro ⟨fault,failed | ⟨tables,listed,failed⟩,told⟩
      · exact .inl ⟨fault,failed,told⟩
      · exact .inr ⟨tables,listed,fault,failed,told⟩
    · rintro (⟨fault,failed,told⟩ | ⟨tables,listed,fault,failed,told⟩)
      · exact ⟨fault,.inl failed,told⟩
      · exact ⟨fault,.inr ⟨tables,listed,failed⟩,told⟩

theorem schemaHolds (s : Schema) : w.schema l reader h database = .ok s ↔
    ∃ tables, w.listTables l reader h database = .ok tables ∧
      Holds (w.listColumns l reader h database) tables s := by
  cases given : w.catalogFor l reader h database with
  | error other =>
    obtain ⟨schema,tables⟩ := askedNone given
    simp [schema,tables]
  | ok c =>
    obtain ⟨schema,tables,columns⟩ := askedSome given
    rw [schema,tables,columns]
    simp only [introspectedOk,Catalog.schemaHolds,holdsIntrospected]

end World
end Querent
