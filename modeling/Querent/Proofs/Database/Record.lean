import Mathlib.Data.List.Induction
import Mathlib.Data.List.Forall2
import Mathlib.Data.List.Nodup
import Querent.Local
import Querent.Proofs.Database.Fetch
import Querent.Proofs.Json.Values
import Querent.Proofs.Sqlite.Width

/-! The record of a row: its names, the value that each of them has, and its place in the text of a set.
Of the columns of one name the first gives the place, and the last the value. -/
namespace Querent
open Database

namespace Database
variable {α ν : Type}

section Repetitions
variable [BEq α] [LawfulBEq α]

theorem eraseDupsOld {names : List α} {name : α} (old : name ∈ names) :
    (names ++ [name]).eraseDups = names.eraseDups := by
  have gone : [name].removeAll names = [] := by simp [List.removeAll,old]
  rw [List.eraseDups_append,gone,List.eraseDups_nil,List.append_nil]

theorem eraseDupsNew {names : List α} {name : α} (new : name ∉ names) :
    (names ++ [name]).eraseDups = names.eraseDups ++ [name] := by
  have stays : [name].removeAll names = [name] := by simp [List.removeAll,new]
  rw [List.eraseDups_append,stays]
  rfl

theorem eraseDupsNodup (names : List α) : names.eraseDups.Nodup := by
  induction names using List.reverseRecOn with
  | nil => simp
  | append_singleton names name ih =>
    by_cases old : name ∈ names
    · rw [eraseDupsOld old]
      exact ih
    · rw [eraseDupsNew old]
      refine ih.append (List.nodup_singleton name) (List.disjoint_singleton.mpr ?_)
      exact fun member => old (List.mem_eraseDups.mp member)

theorem eraseDupsSublist (names : List α) : names.eraseDups.Sublist names := by
  induction names using List.reverseRecOn with
  | nil => simp
  | append_singleton names name ih =>
    by_cases old : name ∈ names
    · rw [eraseDupsOld old]
      exact ih.trans (List.sublist_append_left names [name])
    · rw [eraseDupsNew old]
      exact ih.append (List.Sublist.refl [name])

theorem eraseDupsLength {names : List α} : names.eraseDups.length = names.length ↔ names.Nodup := by
  constructor
  · intro long
    rw [← (eraseDupsSublist names).eq_of_length long]
    exact eraseDupsNodup names
  · intro distinct
    refine List.Perm.length_eq ((List.perm_ext_iff_of_nodup (eraseDupsNodup names) distinct).mpr ?_)
    exact fun name => List.mem_eraseDups

end Repetitions

def Last (cells : Cells ν) (name : String) (v : ν) : Prop :=
  ∃ before after, cells = before ++ (name,v) :: after ∧ name ∉ Cells.names after

theorem lastSnoc {cells : Cells ν} {cell : String × ν} {name : String} {v : ν} :
    Last (cells ++ [cell]) name v ↔ cell = (name,v) ∨ (name ≠ cell.1 ∧ Last cells name v) := by
  constructor
  · rintro ⟨before,after,same,absent⟩
    induction after using List.reverseRecOn with
    | nil => exact .inl (List.append_inj_right' same rfl |> List.singleton_inj.mp)
    | append_singleton after last =>
      rw [← List.cons_append,← List.append_assoc] at same
      obtain ⟨rfl,ending⟩ := List.append_inj' same rfl
      cases List.singleton_inj.mp ending
      simp only [Cells.names,List.map_append,List.mem_append,not_or] at absent
      exact .inr ⟨by simpa using absent.2,before,after,rfl,absent.1⟩
  · rintro (rfl | ⟨other,before,after,rfl,absent⟩)
    · exact ⟨cells,[],rfl,List.not_mem_nil⟩
    · refine ⟨before,after ++ [cell],by simp,?_⟩
      simp only [Cells.names,List.map_append,List.mem_append,not_or]
      exact ⟨absent,by simpa using other⟩

theorem lastUnique {cells : Cells ν} {name : String} {v v' : ν} (last : Last cells name v)
    (last' : Last cells name v') : v = v' := by
  induction cells using List.reverseRecOn with
  | nil =>
    obtain ⟨before,after,same,-⟩ := last
    simp at same
  | append_singleton cells cell ih =>
    rcases lastSnoc.mp last with here | ⟨other,last⟩
    · rcases lastSnoc.mp last' with here' | ⟨other,-⟩
      · exact congrArg Prod.snd (here.symm.trans here')
      · exact absurd (congrArg Prod.fst here).symm other
    · rcases lastSnoc.mp last' with here' | ⟨-,last'⟩
      · exact absurd (congrArg Prod.fst here').symm other
      · exact ih last last'

end Database

namespace Json
variable {name : String} {v : Json} {members : List (String × Json)}

theorem setMemberNames (old : name ∈ Cells.names members) :
    Cells.names (setMember name v members) = Cells.names members := by
  induction members with
  | nil => contradiction
  | cons m members ih =>
    rw [setMember]
    split
    · rfl
    · rename_i other
      have later : name ∈ Cells.names members := by
        rcases List.mem_cons.mp old with same | later
        · exact absurd same.symm other
        · exact later
      exact congrArg (m.1 :: ·) (ih later)

theorem memSetMember (once : (Cells.names members).Nodup) {m : String × Json} :
    m ∈ setMember name v members ↔ m = (name,v) ∨ (m.1 ≠ name ∧ m ∈ members) := by
  induction members with
  | nil => simp [setMember]
  | cons first members ih =>
    obtain ⟨absent,once⟩ := List.nodup_cons.mp once
    rw [setMember]
    split
    · rename_i same
      have unlike : m ∈ members → m.1 ≠ name := fun member named =>
        absent (List.mem_map.mpr ⟨m,member,named.trans same.symm⟩)
      have other : m.1 ≠ name → m ≠ first := by
        rintro other rfl
        exact other same
      rw [same,List.mem_cons,List.mem_cons]
      tauto
    · rename_i other
      have unlike : m = first → m.1 ≠ name := by
        rintro rfl
        exact other
      rw [List.mem_cons,List.mem_cons,ih once]
      tauto

theorem settleSnoc (members : List (String × Json)) (m : String × Json) :
    settle (members ++ [m]) = setMember m.1 m.2 (settle members) := by
  rw [settle,List.foldl_append]
  rfl

theorem settleNames (members : List (String × Json)) :
    Cells.names (settle members) = (Cells.names members).eraseDups := by
  induction members using List.reverseRecOn with
  | nil => rfl
  | append_singleton members m ih =>
    have names : Cells.names (members ++ [m]) = Cells.names members ++ [m.1] := List.map_append
    rw [settleSnoc,names]
    by_cases old : m.1 ∈ Cells.names members
    · rw [eraseDupsOld old,← ih]
      exact setMemberNames (by rw [ih]; exact List.mem_eraseDups.mpr old)
    · have new : m.1 ∉ Cells.names (settle members) := by
        rw [ih]
        exact fun member => old (List.mem_eraseDups.mp member)
      rw [eraseDupsNew old,← ih,setMemberNew new]
      exact List.map_append

theorem memSettle {m : String × Json} : m ∈ settle members ↔ Last members m.1 m.2 := by
  induction members using List.reverseRecOn with
  | nil => simp [settle,Last]
  | append_singleton members last ih =>
    have once : (Cells.names (settle members)).Nodup := by
      rw [settleNames]
      exact eraseDupsNodup _
    rw [settleSnoc,memSetMember once,lastSnoc,ih,eq_comm]

theorem elementsJoined (xs : List Json) :
    renderElements xs = [','].intercalate (xs.map render) ++ [']'] := by
  induction xs with
  | nil => rfl
  | cons x xs ih =>
    cases xs with
    | nil => simp [renderElements]
    | cons y xs => simp [renderElements,ih]

def memberText (m : String × Json) : List Char := renderText m.1 ++ ':' :: render m.2

theorem membersJoined (members : List (String × Json)) :
    renderMembers members = [','].intercalate (members.map memberText) ++ ['\x7d'] := by
  induction members with
  | nil => rfl
  | cons m members ih =>
    obtain ⟨name,v⟩ := m
    cases members with
    | nil => simp [renderMembers,memberText]
    | cons m members => simp [renderMembers,memberText,ih]

end Json

namespace ResultSet

def rowText (row : Row) : List Char :=
  '\x7b' :: [','].intercalate (row.map Json.memberText) ++ ['\x7d']

theorem textJoined (r : ResultSet) :
    r.text.toList = '[' :: [','].intercalate (r.rows.map rowText) ++ [']'] := by
  have each : (r.rows.map Json.object).map Json.render = r.rows.map rowText := by
    rw [List.map_map]
    refine List.map_congr_left fun row _ => ?_
    rw [Function.comp_apply,Json.render,Json.membersJoined]
    rfl
  rw [text,Json.toText,rowsToJson,String.toList_ofList,Json.render,Json.elementsJoined,each]
  rfl

end ResultSet

namespace Database
variable {ν : Type} {decode : ν → Json} {cells : Cells ν} {row : Row}

structure Recorded (decode : ν → Json) (cells : Cells ν) (row : Row) : Prop where
  names : Cells.names row = cells.names.eraseDups
  values : ∀ {name j}, (name,j) ∈ row ↔ ∃ v, Last cells name v ∧ decode v = j
  size : row.length = cells.length ↔ cells.names.Nodup

theorem lastShown {name : String} {j : Json} : Last (cells.map fun cell => (cell.1,decode cell.2)) name j ↔
    ∃ v, Last cells name v ∧ decode v = j := by
  constructor
  · rintro ⟨before,after,same,absent⟩
    obtain ⟨first,rest,rfl,-,shown⟩ := List.map_eq_append_iff.mp same
    obtain ⟨⟨name,v⟩,later,rfl,here,rfl⟩ := List.map_eq_cons_iff.mp shown
    cases here
    rw [namesShown] at absent
    exact ⟨v,⟨first,later,rfl,absent⟩,rfl⟩
  · rintro ⟨v,⟨before,after,rfl,absent⟩,rfl⟩
    rw [← namesShown decode] at absent
    exact ⟨_,_,List.map_append,absent⟩

theorem recorded (decode : ν → Json) (cells : Cells ν) : Recorded decode cells (record decode cells) := by
  have names : Cells.names (record decode cells) = cells.names.eraseDups := by
    rw [record,Json.settleNames,namesShown]
  refine ⟨names,?_,?_⟩
  · intro name j
    rw [record,Json.memSettle]
    exact lastShown
  · rw [← eraseDupsLength,← names]
    simp [Cells.names]

theorem recordLast {name : String} {v : ν} {j : Json} (last : Last cells name v) :
    (name,j) ∈ record decode cells ↔ j = decode v := by
  rw [(recorded decode cells).values]
  constructor
  · rintro ⟨v',last',rfl⟩
    rw [lastUnique last last']
  · rintro rfl
    exact ⟨v,last,rfl⟩

def Uniform (rows : List (Cells ν)) : Prop := ∀ cells ∈ rows, ∀ others ∈ rows, cells.names = others.names

theorem uniformEven {rows : List (Cells ν)} (uniform : Uniform rows) : Even rows := by
  intro bare cells member
  exact List.map_eq_nil_iff.mp (uniform cells member [] bare)

theorem headingsUniform {rows : List (Cells ν)} (uniform : Uniform rows) (member : cells ∈ rows) :
    headings rows = cells.names := by
  rw [headingsEven (uniformEven uniform)]
  cases rows with
  | nil => contradiction
  | cons first rest => exact uniform first List.mem_cons_self cells member

theorem memRows {ε : Type} {feed : Feed ε ν} (member : cells ∈ feed.rows) : .ok cells ∈ feed := by
  induction feed with
  | nil => contradiction
  | cons item rest ih =>
    cases item with
    | error fault => contradiction
    | ok first =>
      rcases List.mem_cons.mp member with rfl | later
      · exact List.mem_cons_self
      · exact List.mem_cons_of_mem _ (ih later)

end Database

namespace World
open Json.Reader (optionSome)
variable {w : World} {l : Ledger} {h : Handle} {sql : String} {maxRows : Nat} {r : ResultSet}

theorem loneUniform {files : Sqlite.Files} {backends : Backend.Registry Backend} {now : Instant}
    (lone : Sqlite.Script.Lone sql) : Uniform ((ofFiles files backends now).feed l h sql).rows := by
  have named : ∃ names, ∀ cells ∈ ((ofFiles files backends now).feed l h sql).rows, cells.names = names := by
    obtain ⟨number,engine,url⟩ := h
    unfold feed
    split
    · exact ⟨[],nofun⟩
    · cases engine with
      | postgres => exact ⟨[],nofun⟩
      | mysql => exact ⟨[],nofun⟩
      | sqlite =>
        simp only [ofFiles,rowsFrom]
        cases files.connect url with
        | error fault => exact ⟨[],nofun⟩
        | ok s =>
          obtain ⟨names,named⟩ := Sqlite.Script.loneNamed lone s
          refine ⟨names,fun cells member => ?_⟩
          obtain ⟨item,found,same⟩ := List.mem_map.mp (memRows member)
          cases item with
          | error fault => contradiction
          | ok row =>
            cases same
            exact named cells found
  obtain ⟨names,named⟩ := named
  exact fun cells member others member' => (named cells member).trans (named others member').symm

structure Aligned (w : World) (l : Ledger) (h : Handle) (sql : String) (maxRows : Nat) (r : ResultSet) :
    Prop where
  records : List.Forall₂ (Recorded Cell.toJson) ((w.feed l h sql).rows.take maxRows) r.rows
  keys : Uniform ((w.feed l h sql).rows.take maxRows) → ∀ row ∈ r.rows,
    Cells.names row = r.columns.eraseDups ∧ (row.length = r.columns.length ↔ r.columns.Nodup)
  lone : ∀ {files backends now}, w = ofFiles files backends now → Sqlite.Script.Lone sql →
    Uniform ((w.feed l h sql).rows.take maxRows)
  text : r.text.toList = '[' :: [','].intercalate (r.rows.map ResultSet.rowText) ++ [']']

theorem recordsAligned (ok : w.fetch l h sql maxRows = .ok r) : Aligned w l h sql maxRows r := by
  obtain ⟨columns,rows,-⟩ := collectOk (fetchOk.mp ok)
  refine ⟨?_,?_,?_,r.textJoined⟩
  · rw [rows,List.forall₂_map_right_iff]
    exact List.forall₂_same.mpr fun cells _ => recorded Cell.toJson cells
  · intro uniform row member
    rw [rows] at member
    obtain ⟨cells,taken,rfl⟩ := List.mem_map.mp member
    obtain ⟨names,-,size⟩ := recorded Cell.toJson cells
    have same := headingsUniform uniform taken
    rw [← columns] at same
    rw [same]
    exact ⟨names,by simpa [Cells.names] using size⟩
  · rintro files backends now rfl lone cells member others member'
    exact loneUniform lone cells (List.mem_of_mem_take member) others (List.mem_of_mem_take member')

theorem lastOfRepeated : ∃ (w : World) (h : Handle) (r : ResultSet),
    w.fetch .empty h "SELECT 1 AS a, 2 AS b, 3 AS a" 5 = .ok r ∧
      Aligned w .empty h "SELECT 1 AS a, 2 AS b, 3 AS a" 5 r ∧ r.columns = ["a","b","a"] ∧
      r.rows = [[("a",.int 3), ("b",.int 2)]] := by
  let w : World := ofFiles [] .empty ⟨0,0⟩
  let h : Handle := ⟨0,.sqlite,"sqlite::memory:"⟩
  have ok : w.fetch .empty h "SELECT 1 AS a, 2 AS b, 3 AS a" 5 =
      .ok ⟨["a","b","a"],[[("a",.int 3), ("b",.int 2)]],false⟩ :=
    optionSome.mp (by decide +kernel)
  exact ⟨w,h,_,ok,recordsAligned ok,rfl,rfl⟩

theorem columnsOfFirstStatement :
    ¬ ∀ (w : World) (l : Ledger) (h : Handle) (sql : String) (maxRows : Nat) (r : ResultSet),
      w.fetch l h sql maxRows = .ok r → ∀ row ∈ r.rows, Cells.names row = r.columns.eraseDups := by
  intro aligned
  have ok : (ofFiles [] .empty ⟨0,0⟩).fetch .empty ⟨0,.sqlite,"sqlite::memory:"⟩
      "SELECT 1 AS a; SELECT 2 AS b" 5 = .ok ⟨["a"],[[("a",.int 1)], [("b",.int 2)]],false⟩ :=
    optionSome.mp (by decide +kernel)
  have names := aligned _ _ _ _ _ _ ok [("b",.int 2)] (by simp)
  exact absurd names (by decide)

end World
end Querent
