import Querent.Json.Printer
import Querent.Proofs.Dictionary
import Querent.Schema

/-! What a schema holds after tables were set in it. Of each name the columns count that were set last, as a
whole; the order in which different names were set leaves no trace. -/
namespace Querent.Schema
open Dictionary (latest latestNone latestSnoc)

def insertTables (s : Schema) (tables : List (String × Columns)) : Schema :=
  tables.foldl (fun s t => s.insertTable t.1 t.2) s

def standing (s : Schema) (tables : List (String × Columns)) (name : String) : Option Columns :=
  (latest tables name).or (s.table? name)

def Ordered {α : Type} (entries : List (String × α)) : Prop :=
  entries.Pairwise fun a b => Text.octetsOf a.1 < Text.octetsOf b.1

variable {s s' : Schema} {tables tables' : List (String × Columns)} {name : String}

theorem dictionaryOrdered {α : Type} (d : Dictionary α) : Ordered d.entries :=
  d.ascending.imp fun before => by simpa [Text.precedes] using before

theorem tablesInserted (s : Schema) (tables : List (String × Columns)) :
    (s.insertTables tables).tables = s.tables.insertAll tables := by
  induction tables generalizing s with
  | nil => rfl
  | cons t tables ih => exact ih (s.insertTable t.1 t.2)

theorem tableInserted (s : Schema) (tables : List (String × Columns)) (name : String) :
    (s.insertTables tables).table? name = s.standing tables name := by
  rw [table?,tablesInserted,Dictionary.getInsertAll,standing,table?]

theorem sizeInserted (s : Schema) (tables : List (String × Columns)) :
    (s.insertTables tables).size = (s.tables.names ++ tables.map (·.1)).toFinset.card := by
  rw [size,tablesInserted,Dictionary.sizeInsertAll]

theorem extTable (same : ∀ name, s.table? name = s'.table? name) : s = s' := by
  obtain ⟨tables⟩ := s
  obtain ⟨tables'⟩ := s'
  exact congrArg Schema.mk (Dictionary.extGet same)

theorem insertedIffStanding : s'.insertTables tables' = s.insertTables tables ↔
    ∀ name, s'.standing tables' name = s.standing tables name := by
  constructor
  · intro same name
    rw [← tableInserted,same,tableInserted]
  · intro same
    refine extTable fun name => ?_
    rw [tableInserted,tableInserted,same]

theorem standingOther {before after : List (String × Columns)} {t : String × Columns}
    (other : t.1 ≠ name) : s.standing (before ++ t :: after) name = s.standing (before ++ after) name := by
  have same : latest (before ++ t :: after) name = latest (before ++ after) name := by
    induction after using List.reverseRecOn with
    | nil => rw [latestSnoc,if_neg (Ne.symm other),List.append_nil]
    | append_singleton after last ih =>
      rw [← List.cons_append,← List.append_assoc,latestSnoc,ih,← List.append_assoc,latestSnoc]
  rw [standing,same,standing]

structure Inserted (s : Schema) (tables : List (String × Columns)) : Prop where
  ordered : Ordered (s.insertTables tables).tables.entries
  columnsOrdered : ∀ t ∈ (s.insertTables tables).tables.entries, Ordered t.2.entries
  table : ∀ name, (s.insertTables tables).table? name = s.standing tables name
  columnType : ∀ table column, (s.insertTables tables).columnType? table column =
    (s.standing tables table).bind (·.get? column)
  size : (s.insertTables tables).size = (s.tables.names ++ tables.map (·.1)).toFinset.card
  others : ∀ before t after, tables = before ++ t :: after → ∀ name, name ≠ t.1 →
    (s.insertTables tables).table? name = (s.insertTables (before ++ after)).table? name ∧
      ∀ column, (s.insertTables tables).columnType? name column =
        (s.insertTables (before ++ after)).columnType? name column
  alike : ∀ (s' : Schema) tables', s'.insertTables tables' = s.insertTables tables ↔
    ∀ name, s'.standing tables' name = s.standing tables name
  shown : ∀ (s' : Schema) tables', (∀ name, s'.standing tables' name = s.standing tables name) →
    (s'.insertTables tables').display = (s.insertTables tables).display ∧
      (s'.insertTables tables').toJson.toText = (s.insertTables tables).toJson.toText

theorem insertsLatest (s : Schema) (tables : List (String × Columns)) : Inserted s tables where
  ordered := dictionaryOrdered _
  columnsOrdered := fun t _ => dictionaryOrdered t.2
  table := tableInserted s tables
  columnType := fun table column => by rw [columnType?,tableInserted]
  size := sizeInserted s tables
  others := by
    rintro before t after rfl name other
    have same : (s.insertTables (before ++ t :: after)).table? name =
        (s.insertTables (before ++ after)).table? name := by
      rw [tableInserted,tableInserted,standingOther (Ne.symm other)]
    exact ⟨same,fun column => by rw [columnType?,same,columnType?]⟩
  alike := fun _ _ => insertedIffStanding
  shown := by
    intro s' tables' same
    have equal := insertedIffStanding.mpr same
    exact ⟨congrArg display equal,congrArg (·.toJson.toText) equal⟩

example : (empty.insertTables [("t",.ofList [("a","text")]), ("é",.empty),
    ("t",.ofList [("b","text"), ("B","int")])]).display = "t(B int, b text)\né()" := by decide +kernel

end Querent.Schema
