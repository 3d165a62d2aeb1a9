import Querent.Local
import Querent.Proofs.Database.Introspection
import Querent.Proofs.Sqlite.Catalog

/-! The schema of a store. It shows the tables that the statement lists, each with what the function that
lists columns tells of it. -/
namespace Querent.Sqlite
open Database (Cells)

namespace Store
variable {s : Store} {t : Table} {name : String}

def made (s : Store) : List String :=
  s.tables.map (·.name) ++ (s.views.map (·.1) ++ s.indexes.map (·.1))

def names (s : Store) : List String :=
  catalogNames ++ ((if s.hasCounted then [sequenceName] else []) ++ s.made)

/-- Whether names tell apart what a store has, and the columns of each table. The engine sees to that
whatever the case of letters. -/
structure Sound (s : Store) : Prop where
  names : s.names.Pairwise fun a b => sameName a b = false
  columns : ∀ t ∈ s.tables, t.columns.Pairwise fun a b => sameName a.name b.name = false

theorem textRowsTold {names : List String}
    (run : Script.run s tablesStatement.sql = names.map fun name => .ok [("name",.text name)]) :
    s.textRows tablesStatement.sql = .ok (names.map fun name => [("name",some name)]) := by
  let row (name : String) : Except Fault (List (String × Value)) := .ok [("name",.text name)]
  have rows : (names.map row).mapM id = .ok (names.map fun name => [("name",.text name)]) := by
    rw [List.mapM_map]
    exact List.mapM_pure (m := Except Fault)
  rw [textRows,run,rows]
  simp only [bind,Except.bind,pure,Except.pure,List.map_map]
  rfl

theorem answerPlain {statement : Database.Statement} {rows : List (Cells (Option String))}
    (plain : statement.parameters = []) (ran : s.textRows statement.sql = .ok rows) :
    s.answer statement = .ok rows := by
  rw [answer,plain]
  simp only [ran]
  rfl

theorem tableNameRead (name : String) : Database.textAt "name" [("name",some name)] = .ok name := by
  simp [Database.textAt]

theorem tablesTold (database : String) (found : s.table? "sqlite_master" = some s.catalog) :
    ∃ names, (mapper.catalog database s.answer).tables = .ok names ∧
      names.Perm (s.listed.map (·.2.1)) := by
  obtain ⟨names,run,perm⟩ := tablesRun found
  refine ⟨names,?_,perm⟩
  have read : (names.map fun name => [("name",some name)]).mapM (Database.textAt "name") = .ok names := by
    rw [List.mapM_map]
    refine (congrArg (List.mapM · names) (funext tableNameRead)).trans ?_
    exact (List.mapM_pure (m := Except Database.Fault)).trans (congrArg Except.ok (List.map_id names))
  exact Database.Mapper.tablesAnswered (answerPlain rfl (textRowsTold run)) read

theorem answerColumns {rows : List (Cells (Option String))} (listed : s.columnRows name = .ok rows) :
    s.answer (columnsStatement name) = .ok rows := by
  change (s.columnRows name).mapError _ = _
  rw [listed]
  rfl

theorem columnRead (c : Column) :
    mapper.columnAt [("name",some c.name), ("type",some c.type)] = .ok (c.name,c.type) := by
  simp [Database.Mapper.columnAt,Database.textAt,mapper,bind,Except.bind,pure,Except.pure]

theorem columnsTold (database : String) (free : s.table? columnLister = none)
    (found : s.table? name = some t) :
    (mapper.catalog database s.answer).columns name =
      .ok ((t.columns.filter (!·.generated)).map fun c => (c.name,Text.lowercased c.type)) := by
  let cells (c : Column) := [("name",some c.name), ("type",some c.type)]
  have rows : s.columnRows name = .ok ((t.columns.filter (!·.generated)).map cells) := by
    rw [columnRows,free,found]
    rfl
  have read : ((t.columns.filter (!·.generated)).map cells).mapM mapper.columnAt =
      .ok ((t.columns.filter (!·.generated)).map fun c => (c.name,c.type)) := by
    rw [List.mapM_map]
    refine (congrArg (List.mapM · _) (funext columnRead)).trans ?_
    exact List.mapM_pure (m := Except Database.Fault)
  rw [Database.Mapper.columnsAnswered (answerColumns rows) read,List.map_map]
  rfl

theorem columnsRefused (taken : s.table? columnLister ≠ none) (database name : String) :
    (mapper.catalog database s.answer).columns name =
      .error (.reported (Fault.notFunction columnLister).message) := by
  have refused : s.answer (columnsStatement name) =
      .error (.reported (Fault.notFunction columnLister).message) := by
    change (s.columnRows name).mapError _ = _
    rw [columnRows,if_pos (Option.isSome_iff_ne_none.mpr taken)]
    rfl
  exact Database.Mapper.columnsFailed refused

theorem findNamed {α : Type} (nameOf : α → String) {x : α} {xs : List α}
    (apart : (xs.map nameOf).Pairwise fun a b => sameName a b = false) (member : x ∈ xs) :
    xs.find? (fun y => sameName (nameOf y) (nameOf x)) = some x := by
  induction xs with
  | nil => exact (List.not_mem_nil member).elim
  | cons y xs ih =>
    obtain ⟨different,apart⟩ := List.pairwise_cons.mp apart
    rcases List.mem_cons.mp member with rfl | member
    · rw [List.find?_cons,sameNameSelf]
    · rw [List.find?_cons,different (nameOf x) (List.mem_map.mpr ⟨x,member,rfl⟩)]
      exact ih apart member

theorem catalogApart (sound : s.Sound) {own : String} (taken : own ∈ catalogNames)
    (made : name ∈ s.made) : sameName own name = false := by
  obtain ⟨-,-,apart⟩ := List.pairwise_append.mp sound.names
  exact apart own taken name (List.mem_append_right _ made)

theorem counterApart (sound : s.Sound) (counted : s.hasCounted = true) (made : name ∈ s.made) :
    sameName sequenceName name = false := by
  obtain ⟨-,rest,-⟩ := List.pairwise_append.mp sound.names
  obtain ⟨-,-,apart⟩ := List.pairwise_append.mp rest
  exact apart sequenceName (by simp [counted]) name made

theorem madeApart (sound : s.Sound) : s.made.Pairwise fun a b => sameName a b = false := by
  obtain ⟨-,rest,-⟩ := List.pairwise_append.mp sound.names
  exact (List.pairwise_append.mp rest).2.1

theorem tableMade (member : t ∈ s.tables) : t.name ∈ s.made :=
  List.mem_append_left _ (List.mem_map.mpr ⟨t,member,rfl⟩)

theorem viewMade {view : String × String} (member : view ∈ s.views) : view.1 ∈ s.made :=
  List.mem_append_right _ (List.mem_append_left _ (List.mem_map.mpr ⟨view,member,rfl⟩))

theorem noView {name : String} (apart : ∀ view ∈ s.views, sameName view.1 name = false) :
    s.views.find? (fun view => sameName view.1 name) = none :=
  List.find?_eq_none.mpr fun view member => by rw [apart view member]; exact Bool.false_ne_true

theorem catalogFound (sound : s.Sound) : s.table? "sqlite_master" = some s.catalog := by
  have first : "sqlite_master" ∈ catalogNames := List.mem_cons_self
  have own : catalogNames.any (sameName "sqlite_master") = true :=
    List.any_eq_true.mpr ⟨_,first,sameNameSelf _⟩
  have apart := noView fun view member => (sameNameComm _ _).trans
    (catalogApart sound first (viewMade member))
  rw [table?,apart]
  simp only [ownTable?,own,if_true]

theorem tableFound (sound : s.Sound) (member : t ∈ s.tables) : s.table? t.name = some t := by
  obtain ⟨tablesApart,-,viewsApart⟩ := List.pairwise_append.mp (madeApart sound)
  have apart := noView fun view shown => (sameNameComm _ _).trans
    (viewsApart t.name (List.mem_map.mpr ⟨t,member,rfl⟩) view.1
      (List.mem_append_left _ (List.mem_map.mpr ⟨view,shown,rfl⟩)))
  have notCatalog : catalogNames.any (sameName t.name) = false := by
    refine List.any_eq_false.mpr fun own taken same => ?_
    rw [sameNameComm,catalogApart sound taken (tableMade member)] at same
    contradiction
  have notCounter : (s.hasCounted && sameName t.name sequenceName) = false := by
    cases counted : s.hasCounted with
    | false => rfl
    | true => exact (sameNameComm _ _).trans (counterApart sound counted (tableMade member))
  rw [table?,apart]
  simp only [ownTable?,notCatalog,notCounter,Bool.false_eq_true,if_false]
  exact findNamed Table.name tablesApart member

def Lists (s : Store) (name : String) : Prop :=
  ∃ t ∈ s.tables, t.name = name ∧ ¬ Reserved name ∧ ¬ Mistaken name

theorem memEntries {entry : String × String × String} : entry ∈ s.entries ↔
    (∃ t ∈ s.tables, entry = ("table",t.name,t.name) ∨
      ∃ index ∈ s.indexes, index.2 = t.name ∧ ("index",index.1,t.name) = entry) ∨
    (s.hasCounted = true ∧ entry = ("table",sequenceName,sequenceName)) ∨
    ∃ view ∈ s.views, ("view",view.1,view.1) = entry := by
  have halves (xs : List (String × String × String)) :
      entry ∈ xs ↔ entry ∈ xs.take 1 ∨ entry ∈ xs.drop 1 := by
    rw [← List.mem_append,List.take_append_drop]
  have counter : entry ∈ (if s.hasCounted then [("table",sequenceName,sequenceName)] else []) ↔
      s.hasCounted = true ∧ entry = ("table",sequenceName,sequenceName) := by
    cases s.hasCounted <;> simp
  rw [entries]
  simp only [List.mem_append,counter]
  rw [or_right_comm (a := _ ∈ List.take 1 _),← halves,or_assoc]
  simp only [List.mem_flatMap,List.mem_cons,List.mem_map,List.mem_filter,beq_iff_eq,and_assoc]

theorem memListed : name ∈ s.listed.map (·.2.1) ↔ s.Lists name := by
  have unlike : (!Pattern.isLike "sqlite_%" name) = true ↔ ¬ Reserved name ∧ ¬ Mistaken name := by
    rw [Bool.not_eq_true',← Bool.not_eq_true,likeIff,not_or]
  have counter : Reserved sequenceName := by decide +kernel
  constructor
  · intro listed
    obtain ⟨entry,kept,rfl⟩ := List.mem_map.mp listed
    obtain ⟨member,kind⟩ := List.mem_filter.mp kept
    rw [Bool.and_eq_true,beq_iff_eq,unlike] at kind
    obtain ⟨table,ordinary⟩ := kind
    rcases memEntries.mp member with ⟨t,there,rfl | ⟨index,-,-,rfl⟩⟩ | ⟨-,rfl⟩ | ⟨view,-,rfl⟩
    · exact ⟨t,there,rfl,ordinary⟩
    · simp at table
    · exact absurd counter ordinary.1
    · simp at table
  · rintro ⟨t,there,rfl,ordinary⟩
    refine List.mem_map.mpr ⟨("table",t.name,t.name),List.mem_filter.mpr ⟨?_,?_⟩,rfl⟩
    · exact memEntries.mpr (.inl ⟨t,there,.inl rfl⟩)
    · rw [unlike.mpr ordinary]
      rfl

def Hindered (s : Store) : Prop := s.table? columnLister ≠ none ∧ ∃ name, s.Lists name

def Tells (t : Table) (columns : Columns) : Prop :=
  ∀ column type, columns.get? column = some type ↔
    ∃ c ∈ t.columns, c.generated = false ∧ c.name = column ∧ Text.lowercased c.type = type

structure Shown (s : Store) (schema : Schema) : Prop where
  tables : ∀ name, (∃ columns, schema.table? name = some columns) ↔
    ∃ t ∈ s.tables, t.name = name ∧ ¬ Reserved name ∧ ¬ Mistaken name
  columns : ∀ t ∈ s.tables, ∀ columns, schema.table? t.name = some columns → Tells t columns
  views : ∀ view ∈ s.views, schema.table? view.1 = none
  indexes : ∀ index ∈ s.indexes, schema.table? index.1 = none
  internal : ∀ name, Reserved name → schema.table? name = none

theorem columnsShown (database : String) (sound : s.Sound) (free : s.table? columnLister = none)
    (member : t ∈ s.tables) :
    ∃ columns, (mapper.catalog database s.answer).columnsOf t.name = .ok columns ∧ Tells t columns := by
  have told := columnsTold database free (tableFound sound member)
  have once : (((t.columns.filter (!·.generated)).map fun c => (c.name,Text.lowercased c.type)).map
      (·.1)).Nodup := by
    rw [List.map_map]
    refine List.pairwise_map.mpr (((sound.columns t member).filter _).imp ?_)
    intro c c' different (same : c.name = c'.name)
    rw [same,sameNameSelf] at different
    contradiction
  refine ⟨_,by rw [Database.Catalog.columnsOf,told]; rfl,fun column type => ?_⟩
  rw [Dictionary.getOfListOnce once]
  simp only [List.mem_map,List.mem_filter,Bool.not_eq_true',Prod.mk.injEq,and_assoc]

theorem notListed (sound : s.Sound) {other : String}
    (beside : other ∈ s.views.map (·.1) ++ s.indexes.map (·.1)) : ¬ s.Lists other := by
  rintro ⟨t,member,rfl,-⟩
  obtain ⟨-,-,apart⟩ := List.pairwise_append.mp (madeApart sound)
  have different := apart t.name (List.mem_map.mpr ⟨t,member,rfl⟩) t.name beside
  rw [sameNameSelf] at different
  contradiction

theorem shownOf {read : String → Except Database.Fault Columns} {names : List String} {schema : Schema}
    (sound : s.Sound) (holds : Holds read names schema) (listed : ∀ name, name ∈ names ↔ s.Lists name)
    (columns : ∀ t ∈ s.tables, t.name ∈ names → ∃ columns, read t.name = .ok columns ∧ Tells t columns) :
    s.Shown schema where
  tables := by
    intro name
    refine Iff.trans ⟨?_,fun member => ?_⟩ (listed name)
    · rintro ⟨columns,found⟩
      exact (holdsFound holds found).1
    · obtain ⟨columns,-,found⟩ := holds.listed name member
      exact ⟨columns,found⟩
  columns := by
    intro t member shown found
    obtain ⟨among,ok⟩ := holdsFound holds found
    obtain ⟨told,ok',tells⟩ := columns t member among
    rw [ok] at ok'
    exact Except.ok.inj ok' ▸ tells
  views := fun view member => holds.others view.1 fun among =>
    notListed sound (List.mem_append_left _ (List.mem_map.mpr ⟨view,member,rfl⟩)) ((listed _).mp among)
  indexes := fun index member => holds.others index.1 fun among =>
    notListed sound (List.mem_append_right _ (List.mem_map.mpr ⟨index,member,rfl⟩)) ((listed _).mp among)
  internal := by
    refine fun name reserved => holds.others name fun among => ?_
    obtain ⟨-,-,-,ordinary,-⟩ := (listed name).mp among
    exact ordinary reserved

theorem schemaShown (database : String) (sound : s.Sound) (free : ¬ s.Hindered) :
    ∃ schema, (mapper.catalog database s.answer).schema = .ok schema ∧ s.Shown schema := by
  obtain ⟨names,told,perm⟩ := tablesTold database (catalogFound sound)
  have listed (name : String) : name ∈ names ↔ s.Lists name := perm.mem_iff.trans memListed
  have columns : ∀ t ∈ s.tables, t.name ∈ names → ∃ columns,
      (mapper.catalog database s.answer).columnsOf t.name = .ok columns ∧ Tells t columns := by
    intro t member among
    have untaken : s.table? columnLister = none := by
      by_contra taken
      exact free ⟨taken,t.name,(listed t.name).mp among⟩
    exact columnsShown database sound untaken member
  cases made : (mapper.catalog database s.answer).schema with
  | ok schema =>
    obtain ⟨names',told',holds⟩ := (Database.Catalog.schemaHolds schema).mp made
    rw [told] at told'
    cases told'
    exact ⟨schema,rfl,shownOf sound holds listed columns⟩
  | error fault =>
    -- the tables are listed, and each of them can be read
    rcases (Database.Catalog.schemaFails fault).mp made with
      failed | ⟨names',told',before,name,after,split,-,failed⟩
    · rw [told] at failed
      contradiction
    · rw [told] at told'
      cases told'
      obtain ⟨t,member,rfl,-⟩ := (listed name).mp (by rw [split]; simp)
      obtain ⟨columns,ok,-⟩ := columns t member (by rw [split]; simp)
      rw [ok] at failed
      contradiction

theorem schemaRefused (database : String) (sound : s.Sound) (hindered : s.Hindered) :
    (mapper.catalog database s.answer).schema =
      .error (.reported (Fault.notFunction columnLister).message) := by
  obtain ⟨taken,name,lists⟩ := hindered
  obtain ⟨names,listed,perm⟩ := tablesTold database (catalogFound sound)
  have among : name ∈ names := perm.mem_iff.mpr (memListed.mpr lists)
  refine (Database.Catalog.schemaFails _).mpr (.inr ⟨names,listed,?_⟩)
  cases names with
  | nil => exact (List.not_mem_nil among).elim
  | cons first names =>
    refine (failsHere ?_).mpr rfl
    rw [Database.Catalog.columnsOf,columnsRefused taken]
    rfl

end Store
end Querent.Sqlite

namespace Querent.World
open Database (Ledger Handle)
open Sqlite (Files Store Fault)

section Files
variable {files : Files} {backends : Backend.Registry Backend} {now : Instant} {l : Ledger} {h : Handle}
  {s : Store}

theorem schemaOfStore (sqlite : h.engine = .sqlite) (current : l.isClosed h = false)
    (found : files.connect h.url = .ok s) (database : String) :
    (ofFiles files backends now).schema l .sqlite h database =
      introspected (Sqlite.mapper.catalog database s.answer).schema := by
  have given : (ofFiles files backends now).catalogFor l .sqlite h database =
      .ok (Sqlite.mapper.catalog database s.answer) := by
    simp only [catalogFor,sqlite,current,ofFiles,storeOf,found]
    rfl
  exact (askedSome given).1

structure Introspected (w : World) (l : Ledger) (h : Handle) (database : String) (s : Store) : Prop where
  shown : ¬ s.Hindered → ∃ schema, w.schema l .sqlite h database = .ok schema ∧ s.Shown schema
  refused : s.Hindered → w.schema l .sqlite h database =
    .error (.introspection (.reported (Fault.notFunction Store.columnLister).message))

theorem showsUserTables (sqlite : h.engine = .sqlite) (current : l.isClosed h = false)
    (found : files.connect h.url = .ok s) (sound : s.Sound) (database : String) :
    Introspected (ofFiles files backends now) l h database s where
  shown := by
    intro free
    obtain ⟨schema,made,shown⟩ := Store.schemaShown database sound free
    refine ⟨schema,?_,shown⟩
    rw [schemaOfStore sqlite current found,made]
    rfl
  refused := by
    intro hindered
    rw [schemaOfStore sqlite current found,Store.schemaRefused database sound hindered]
    rfl

end Files

def mixedStore : Store where
  tables := [.declare "accounts" [("id",""), ("owner","TEXT NOT NULL")] true [],
    .declare "sqlitedata" [("a","INTEGER")] false [],
    .declare "Totals" [("a","INTEGER"), ("b","INTEGER AS (a + 1)")] false []]
  views := [("rich","accounts")]
  indexes := [("byOwner","accounts")]

def mixedFiles : Files := [("a.db",.file mixedStore)]

def mixedHandle : Handle := ⟨0,.sqlite,"sqlite://a.db"⟩

theorem mixedConnect : mixedFiles.connect mixedHandle.url = .ok mixedStore := by
  decide +kernel

theorem mixedOpen : Ledger.empty.isClosed mixedHandle = false := rfl

theorem mixedSound : mixedStore.Sound where
  names := by decide +kernel
  columns := by decide +kernel

theorem mixedFree : ¬ mixedStore.Hindered := fun hindered => hindered.1 (by decide +kernel)

theorem mixedShown : ∃ schema,
    (ofFiles mixedFiles .empty ⟨0,0⟩).schema .empty .sqlite mixedHandle "main" = .ok schema ∧
      mixedStore.Shown schema := by
  have introspected :
      Introspected (ofFiles mixedFiles .empty ⟨0,0⟩) .empty mixedHandle "main" mixedStore :=
    showsUserTables rfl mixedOpen mixedConnect mixedSound "main"
  exact introspected.shown mixedFree

/-- A table is left out although no name of the engine's begins like its own. -/
theorem userTableMissing : ¬ ∀ (files : Files) (h : Handle) (s : Store), h.engine = .sqlite →
    files.connect h.url = .ok s → s.Sound → ∃ schema,
      (ofFiles files .empty ⟨0,0⟩).schema .empty .sqlite h "main" = .ok schema ∧
        ∀ t ∈ s.tables, ¬ Sqlite.Reserved t.name → ∃ columns, schema.table? t.name = some columns := by
  intro complete
  obtain ⟨schema,made,tables⟩ := complete mixedFiles mixedHandle mixedStore rfl mixedConnect mixedSound
  obtain ⟨shown,made',holds⟩ := Store.schemaShown "main" mixedSound mixedFree
  rw [schemaOfStore rfl mixedOpen mixedConnect,made'] at made
  cases introspectedOk.mp made
  have user : ∃ t ∈ mixedStore.tables, t.name = "sqlitedata" := by decide +kernel
  obtain ⟨t,member,named⟩ := user
  obtain ⟨_,-,-,-,kept⟩ := (holds.tables t.name).mp (tables t member (by rw [named]; decide +kernel))
  exact kept ⟨'d',"ata".toList,by rw [named]; rfl,by decide⟩

end Querent.World
