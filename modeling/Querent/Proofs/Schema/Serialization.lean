import Querent.Proofs.Json.Records
import Querent.Proofs.Json.Rendering
import Querent.Proofs.Schema.Insertion

/-! Schemas as JSON text: objects of objects of texts, and nothing else. The text of a schema is read as that
schema; of names that are repeated, on either level, the last counts. -/
namespace Querent.Json.Reader
variable {α : Type} {as : Json → Option α} {write : α → Json} {j : Json} {cs rest : List Char}

def asMembers (as : Json → Option α) : List (String × Json) → Option (List (String × α))
  | [] => some []
  | (name, v) :: ms => match as v, asMembers as ms with
    | some x, some xs => some ((name,x) :: xs)
    | _, _ => none

def asMapping (as : Json → Option α) : Json → Option (List (String × α))
  | .object ms => asMembers as ms
  | _ => none

-- The members that have been read are kept in reverse.
theorem membersTaken (ms : List (String × Json)) (done : List (String × α)) :
    ms.foldlM (fun done m => (as m.2).map fun x => (m.1,x) :: done) done =
      (asMembers as ms).map fun xs => xs.reverse ++ done := by
  induction ms generalizing done with
  | nil => rfl
  | cons m ms ih =>
    rw [List.foldlM_cons,asMembers]
    cases as m.2 with
    | none => rfl
    | some x =>
      refine (ih ((m.1,x) :: done)).trans ?_
      cases asMembers as ms with
      | none => rfl
      | some xs => simp

theorem mappingFails {l : Leaves} (spells : Spells l (.value j) cs rest) (object : ∀ ms, j ≠ .object ms)
    (read : Reader α) (x : List (String × α) × List Char) : mapping read cs ≠ .ok x := by
  intro ok
  obtain ⟨c,ds,start,-,-,brace⟩ := valueHead spells
  simp only [mapping,start] at ok
  split at ok
  · contradiction
  · rename_i same
    cases same
    obtain ⟨ms,same⟩ := brace rfl
    exact object ms same
  · exact unexpectedFails _ _ _ ok

theorem objectYields {read : Reader α} {ms : List (String × Json)}
    (reads : ∀ j cs rest, Spells .exact (.value j) cs rest → Parted rest → Yields (read cs) (as j) rest)
    (spells : Spells .exact (.value (.object ms)) cs rest) :
    Yields (mapping read cs) (asMembers as ms) rest := by
  cases spells with
  | object brace spells =>
    have taken : asMembers as ms =
        (ms.foldlM (fun done m => (as m.2).map fun x => (m.1,x) :: done) []).bind (some ·.reverse) := by
      rw [membersTaken]
      cases asMembers as ms <;> simp
    rw [taken]
    simp only [mapping,skipToken brace rfl]
    refine yieldsBind (membersOfSpells (fun name v done => (as v).map fun x => (name,x) :: done) ?_ spells
      (Nat.lt_succ_self _)) fun done _ => rfl
    intro m _ done cs ds rest gap value parted
    rw [colonOfGap gap,Option.map_eq_bind]
    exact yieldsBind (reads m.2 ds rest value parted) fun x _ => rfl

theorem mappingYields {read : Reader α}
    (reads : ∀ j cs rest, Spells .exact (.value j) cs rest → Parted rest → Yields (read cs) (as j) rest)
    (spells : Spells .exact (.value j) cs rest) : Yields (mapping read cs) (asMapping as j) rest := by
  cases j with
  | object ms => exact objectYields reads spells
  | null | bool | number | text | array => exact yieldsNone (mappingFails spells (by simp) read) rest

theorem asMembersIff (inverse : ∀ v x, as v = some x ↔ v = write x) {ms : List (String × Json)}
    {xs : List (String × α)} : asMembers as ms = some xs ↔ ms = xs.map fun x => (x.1,write x.2) := by
  induction ms generalizing xs with
  | nil => cases xs <;> simp [asMembers]
  | cons m ms ih =>
    obtain ⟨name,v⟩ := m
    rw [asMembers]
    constructor
    · intro read
      split at read
      · rename_i x xs' value members
        cases read
        rw [(inverse v x).mp value,ih.mp members]
        rfl
      · contradiction
    · intro same
      cases xs with
      | nil => contradiction
      | cons x xs =>
        obtain ⟨⟨rfl,value⟩,members⟩ := by simpa using same
        rw [(inverse v x.2).mpr value,ih.mpr members]

theorem asMappingIff (inverse : ∀ v x, as v = some x ↔ v = write x) (j : Json) (xs : List (String × α)) :
    asMapping as j = some xs ↔ j = .object (xs.map fun x => (x.1,write x.2)) := by
  cases j with
  | object ms => rw [asMapping,asMembersIff inverse,Json.object.injEq]
  | null | bool | number | text | array => simp [asMapping]

end Querent.Json.Reader

namespace Querent
open Json (Document Faithful)
open Json.Reader (Yields asMapping asMappingIff mappingYields)

theorem Dictionary.ofListEntries {α : Type} (d : Dictionary α) : ofList d.entries = d := by
  refine extGet fun name => Option.ext fun x => ?_
  have once : (ofList d.entries).get? name = some x ↔ (name,x) ∈ d.entries := getOfListOnce d.namesNodup
  exact once.trans getIff.symm

namespace Schema
open Dictionary (latest)

def columnsWritten (columns : List (String × String)) : Json :=
  .object (columns.map fun c => (c.1,.text c.2))

def written (tables : List (String × List (String × String))) : Json :=
  .object (tables.map fun t => (t.1,columnsWritten t.2))

def asText (j : Json) : Option String := (Json.asText j).toOption

theorem asTextIff (j : Json) (s : String) : asText j = some s ↔ j = .text s := by
  cases j <;> simp [asText,Json.asText,Json.wrongKind,Except.toOption]

theorem asTablesIff (j : Json) (tables : List (String × List (String × String))) :
    asMapping (asMapping asText) j = some tables ↔ j = written tables :=
  asMappingIff (asMappingIff asTextIff) j tables

theorem readerYields {j : Json} {cs rest : List Char} (spells : Json.Spells .exact (.value j) cs rest) :
    Yields (reader cs) ((asMapping (asMapping asText) j).map ofColumns) rest := by
  rw [Option.map_eq_bind]
  have tables := mappingYields (fun _ _ _ spells _ => mappingYields
    (fun _ _ _ spells _ => Json.Reader.textYields spells) spells) spells
  exact Json.Reader.yieldsBind tables fun _ _ => rfl

theorem decodeIff {j : Json} {text : String} (spells : Document .exact j text.toList) (s : Schema) :
    decode text = .ok s ↔ ∃ tables, j = written tables ∧ s = ofColumns tables := by
  have read : (decode text).toOption = (asMapping (asMapping asText) j).map ofColumns :=
    Json.Reader.documentYields (fun _ spells => readerYields spells) spells
  rw [← Json.Reader.optionSome,read,Option.map_eq_some_iff]
  simp only [asTablesIff,eq_comm (b := s)]

theorem toJsonWritten (s : Schema) : s.toJson = written (s.tables.entries.map fun t => (t.1,t.2.entries)) := by
  simp [toJson,columnsToJson,written,columnsWritten]

theorem ofColumnsEntries (s : Schema) : ofColumns (s.tables.entries.map fun t => (t.1,t.2.entries)) = s := by
  simp [ofColumns,ofList,Function.comp_def,Dictionary.ofListEntries]

theorem columnsFaithful (columns : Columns) (depth : Nat) : Faithful (depth + 1) (columnsToJson columns) := by
  refine .object ?_ ?_
  · simpa [Function.comp_def,Dictionary.names] using columns.namesNodup
  · intro m member
    obtain ⟨c,-,rfl⟩ := List.mem_map.mp member
    exact .text

theorem toJsonDocument (s : Schema) : Document .exact s.toJson s.toJson.toText.toList := by
  have tables : ∀ m ∈ s.tables.entries.map fun t => (t.1,columnsToJson t.2), Faithful 1 m.2 := by
    intro m member
    obtain ⟨t,-,rfl⟩ := List.mem_map.mp member
    exact columnsFaithful t.2 0
  exact Json.objectRendered tables

theorem decodeToJson (s : Schema) : decode s.toJson.toText = .ok s :=
  (decodeIff (toJsonDocument s) s).mpr ⟨_,toJsonWritten s,(ofColumnsEntries s).symm⟩

theorem latestMap {α β : Type} (f : α → β) (entries : List (String × α)) (name : String) :
    latest (entries.map fun e => (e.1,f e.2)) name = (latest entries name).map f := by
  induction entries using List.reverseRecOn with
  | nil => rfl
  | append_singleton entries e ih =>
    rw [List.map_append,List.map_singleton,Dictionary.latestSnoc,Dictionary.latestSnoc,ih]
    split <;> rfl

theorem tableOfColumns (tables : List (String × List (String × String))) (name : String) :
    (ofColumns tables).table? name = (latest tables name).map .ofList := by
  rw [ofColumns,ofList,table?,Dictionary.getOfList,latestMap]

theorem columnOfColumns (tables : List (String × List (String × String))) (table column : String) :
    (ofColumns tables).columnType? table column = (latest tables table).bind (latest · column) := by
  rw [columnType?,tableOfColumns,Option.bind_map]
  simp [Dictionary.getOfList]

structure Decodes (text : String) : Prop where
  again : ∀ s : Schema, s.toJson.toText = text → decode text = .ok s
  tables : ∀ j, Document .exact j text.toList → ∀ s,
    decode text = .ok s ↔ ∃ tables, j = written tables ∧ s = ofColumns tables
  latest : ∀ tables, Document .exact (written tables) text.toList → ∃ s, decode text = .ok s ∧
    (∀ table, s.table? table = (latest tables table).map .ofList) ∧
    ∀ table column, s.columnType? table column = (latest tables table).bind (latest · column)

theorem decodesTables (text : String) : Decodes text where
  again := by
    rintro s rfl
    exact decodeToJson s
  tables := fun _ spells => decodeIff spells
  latest := by
    intro tables spells
    have read : decode text = .ok (ofColumns tables) := (decodeIff spells _).mpr ⟨tables,rfl,rfl⟩
    exact ⟨ofColumns tables,read,tableOfColumns tables,columnOfColumns tables⟩

example : (decode "\x7b\"t\":\x7b\"a\":\"int\"\x7d,\"t\":\x7b\"b\":\"\",\"b\":\"date\"\x7d\x7d").toOption =
    some (ofColumns [("t",[("b","date")])]) := by decide +kernel

end Schema
end Querent
