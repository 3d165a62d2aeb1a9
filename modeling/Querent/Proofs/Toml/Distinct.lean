import Querent.Proofs.Toml.Path
import Querent.Toml.Reader

/-! No table of a document that is read has a name twice. Nodes of the draft are kept so by every line; which
names they have does not matter for that, since the entries are sorted in the end. -/
namespace Querent.Toml

inductive Node.Proper : Node → Prop where
  | value {v : Toml} (proper : v.Proper) : Node.Proper (.value v)
  | table {origin : Origin} {entries : Entries} (nodes : ∀ e ∈ entries, Node.Proper e.2) :
      Node.Proper (.table origin entries)
  | series {elements : List Entries} : Node.Proper (.series elements)

def AllProper (entries : Entries) : Prop := ∀ e ∈ entries, e.2.Proper

theorem properNone : AllProper [] := fun _ member => absurd member List.not_mem_nil

variable {entries entries' inner : Entries} {node : Node} {name step : String} {path : List String}

theorem ascendingSorted (entries : Entries) : Ascending (sorted entries) := by
  induction entries with
  | nil => exact .nil
  | cons e rest ih => exact Dictionary.ascendingPut e.1 e.2.toToml ih

theorem memSorted {m : String × Toml} (member : m ∈ sorted entries) :
    ∃ e ∈ entries, m = (e.1,e.2.toToml) := by
  induction entries with
  | nil => exact absurd member List.not_mem_nil
  | cons e rest ih =>
    rcases Dictionary.memPut member with rfl | later
    · exact ⟨e,List.mem_cons_self,rfl⟩
    · obtain ⟨e',member,same⟩ := ih later
      exact ⟨e',List.mem_cons_of_mem _ member,same⟩

theorem Node.Proper.toToml (proper : node.Proper) : node.toToml.Proper := by
  induction proper with
  | value proper => exact proper
  | @table origin entries nodes ih =>
    refine .table (ascendingSorted entries) fun m member => ?_
    obtain ⟨e,entry,rfl⟩ := memSorted member
    exact ih e entry
  | series => exact .other nofun

theorem properSorted (proper : AllProper entries) : Toml.Proper (.table (sorted entries)) :=
  (@Node.Proper.table .header entries proper).toToml

theorem AllProper.lookup (proper : AllProper entries) (found : entries.lookup name = some node) :
    node.Proper := by
  obtain ⟨before,after,rfl,-⟩ := List.lookup_eq_some_iff.mp found
  exact proper (name,node) (by simp)

theorem AllProper.within {origin : Origin} (proper : AllProper entries)
    (found : entries.lookup name = some (.table origin inner)) : AllProper inner := by
  cases proper.lookup found with
  | table nodes => exact nodes

theorem AllProper.append (proper : AllProper entries) (new : node.Proper) :
    AllProper (entries ++ [(name,node)]) := by
  intro e member
  rcases List.mem_append.mp member with old | last
  · exact proper e old
  · rw [List.mem_singleton.mp last]
    exact new

theorem AllProper.replace (proper : AllProper entries) (new : node.Proper) :
    AllProper (replace name node entries) := by
  induction entries with
  | nil =>
    intro e member
    rw [List.mem_singleton.mp member]
    exact new
  | cons first rest ih =>
    obtain ⟨own,others⟩ := List.forall_mem_cons.mp proper
    rw [Toml.replace]
    split
    · exact List.forall_mem_cons.mpr ⟨new,others⟩
    · exact List.forall_mem_cons.mpr ⟨own,ih others⟩

theorem properInsert {v : Toml} (value : v.Proper) {origin : Origin} (proper : AllProper entries)
    (inserted : insertValue v path name origin entries = some entries') : AllProper entries' := by
  induction path generalizing origin entries entries' with
  | nil =>
    rw [insertValue] at inserted
    split at inserted
    · contradiction
    · cases inserted
      exact proper.append (.value value)
  | cons step path ih =>
    rw [insertValue] at inserted
    split at inserted
    · obtain ⟨inner,made,last⟩ := Option.bind_eq_some_iff.mp inserted
      cases last
      exact proper.append (.table (ih properNone made))
    · contradiction
    · rename_i found
      obtain ⟨inner,made,last⟩ := Option.bind_eq_some_iff.mp inserted
      cases last
      exact proper.replace (.table (ih (proper.within found) made))
    · contradiction

def Keeps (change : Entries → Option Entries) : Prop :=
  ∀ {entries entries'}, AllProper entries → change entries = some entries' → AllProper entries'

theorem keepsAtPath {change : Entries → Option Entries} (keeps : Keeps change) (path : List String) :
    Keeps (atPath change path) := by
  induction path with
  | nil => exact keeps
  | cons step path ih =>
    intro entries entries' proper changed
    rw [atPath] at changed
    split at changed
    · obtain ⟨inner,made,last⟩ := Option.bind_eq_some_iff.mp changed
      cases last
      exact proper.append (.table (ih properNone made))
    · rename_i found
      obtain ⟨inner,made,last⟩ := Option.bind_eq_some_iff.mp changed
      cases last
      exact proper.replace (.table (ih (proper.within found) made))
    · obtain ⟨inner,made,last⟩ := Option.bind_eq_some_iff.mp changed
      cases last
      exact proper.replace .series
    · contradiction

theorem keepsOpenTable (name : String) : Keeps (openTable name) := by
  intro entries entries' proper opened
  rw [openTable] at opened
  split at opened
  · cases opened
    exact proper.append (.table properNone)
  · rename_i found
    cases opened
    exact proper.replace (.table (proper.within found))
  · contradiction

theorem keepsOpenElement (name : String) : Keeps (openElement name) := by
  intro entries entries' proper opened
  rw [openElement] at opened
  split at opened
  · cases opened
    exact proper.append .series
  · cases opened
    exact proper.replace .series
  · contradiction

namespace Reader

theorem integerProper {cs : List Char} {v : Toml} (read : integer? cs = some v) : v.Proper := by
  have within {i : Int} {o : Option Toml} (given : o = if -(Bits.count 127 : Int) ≤ i ∧ i < Bits.count 128
      then some (.integer i) else none) (some_ : o = some v) : v.Proper := by
    rw [given] at some_
    split at some_
    · cases some_
      exact .other nofun
    · contradiction
  unfold integer? at read
  split at read <;> obtain ⟨ds,-,last⟩ := Option.bind_eq_some_iff.mp read <;> exact within rfl last

theorem realProper {cs : List Char} {v : Toml} (read : real? cs = some v) : v.Proper := by
  have finite {x : Double} (given : (if x.isInfinite then none else some (Toml.real x)) = some v) :
      v.Proper := by
    split at given
    · contradiction
    · cases given
      exact .other nofun
  unfold real? at read
  dsimp only at read
  split at read
  · cases read
    exact .other nofun
  · split at read
    · cases read
      exact .other nofun
    · obtain ⟨ds,-,read⟩ := Option.bind_eq_some_iff.mp read
      -- With a fraction or without, an exponent may follow.
      split at read
      all_goals
        obtain ⟨fs,-,read⟩ := Option.bind_eq_some_iff.mp read
        split at read
        · split at read
          · contradiction
          · exact finite read
        · obtain ⟨e,-,read⟩ := Option.bind_eq_some_iff.mp read
          exact finite read

theorem momentProper {cs : List Char} {v : Toml} (read : moment? cs = some v) : v.Proper := by
  unfold moment? at read
  dsimp only at read
  split at read
  · cases read
    exact .other nofun
  · split at read
    · split at read
      · cases read
        exact .other nofun
      · contradiction
    · contradiction
  · split at read
    · cases read
      exact .other nofun
    · contradiction

theorem scalarProper {cs rest : List Char} {v : Toml} (read : scalar cs = some (v,rest)) : v.Proper := by
  unfold scalar at read
  dsimp only at read
  split at read
  · cases read
    exact .other nofun
  · split at read
    · cases read
      exact .other nofun
    · obtain ⟨w,found,same⟩ := Option.map_eq_some_iff.mp read
      cases same
      rcases Option.or_eq_some_iff.mp found with integer | ⟨-,found⟩
      · exact integerProper integer
      · rcases Option.or_eq_some_iff.mp found with real | ⟨-,moment⟩
        · exact realProper real
        · exact momentProper moment

def ReadsProper (read : Reader Toml) : Prop := ∀ cs v rest, read cs = some (v,rest) → v.Proper

theorem entriesProper {item : Reader Toml} (proper : ReadsProper item) {fuel : Nat} {cs rest : List Char}
    (before : AllProper entries) (read : entriesUpTo item fuel entries cs = some (entries',rest)) :
    AllProper entries' := by
  induction fuel generalizing entries cs with
  | zero => contradiction
  | succ fuel ih =>
    rw [entriesUpTo] at read
    split at read
    · cases read
      exact before
    · obtain ⟨⟨⟨path,name⟩,_⟩,-,read⟩ := Option.bind_eq_some_iff.mp read
      obtain ⟨_,-,read⟩ := Option.bind_eq_some_iff.mp read
      obtain ⟨⟨v,_⟩,value,read⟩ := Option.bind_eq_some_iff.mp read
      obtain ⟨after,inserted,read⟩ := Option.bind_eq_some_iff.mp read
      have kept : AllProper after := properInsert (proper _ _ _ value) before inserted
      split at read
      · exact ih kept read
      · cases read
        exact kept
      · contradiction

theorem valueWithProper {array table : Reader Toml} (arrays : ReadsProper array)
    (tables : ReadsProper table) : ReadsProper (valueWith array table) := by
  intro cs v rest read
  unfold valueWith at read
  split at read
  · obtain ⟨_,-,same⟩ := Option.map_eq_some_iff.mp read
    cases same
    exact .other nofun
  · obtain ⟨_,-,same⟩ := Option.map_eq_some_iff.mp read
    cases same
    exact .other nofun
  · exact arrays _ _ _ read
  · exact tables _ _ _ read
  · exact scalarProper read

theorem valueProper (depth : Nat) : ReadsProper (value depth) := by
  induction depth with
  | zero =>
    have nothing : ReadsProper fun _ => none := fun _ _ _ read => by contradiction
    exact valueWithProper nothing nothing
  | succ depth ih =>
    refine valueWithProper ?_ ?_
    · intro cs v rest read
      obtain ⟨_,-,same⟩ := Option.map_eq_some_iff.mp read
      cases same
      exact .other nofun
    · intro cs v rest read
      obtain ⟨_,entries,same⟩ := Option.map_eq_some_iff.mp read
      cases same
      exact properSorted (entriesProper ih properNone entries)

theorem lineProper {draft draft' : Draft} {cs rest : List Char} (before : AllProper draft.root)
    (read : line draft cs = some (draft',rest)) : AllProper draft'.root := by
  unfold line at read
  split at read
  · obtain ⟨⟨⟨path,name⟩,_⟩,-,read⟩ := Option.bind_eq_some_iff.mp read
    obtain ⟨_,-,read⟩ := Option.bind_eq_some_iff.mp read
    obtain ⟨_,-,read⟩ := Option.bind_eq_some_iff.mp read
    obtain ⟨root,opened,read⟩ := Option.bind_eq_some_iff.mp read
    obtain ⟨_,-,last⟩ := Option.bind_eq_some_iff.mp read
    cases last
    exact keepsAtPath (keepsOpenElement name) path before opened
  · obtain ⟨⟨⟨path,name⟩,_⟩,-,read⟩ := Option.bind_eq_some_iff.mp read
    obtain ⟨_,-,read⟩ := Option.bind_eq_some_iff.mp read
    obtain ⟨root,opened,read⟩ := Option.bind_eq_some_iff.mp read
    obtain ⟨_,-,last⟩ := Option.bind_eq_some_iff.mp read
    cases last
    exact keepsAtPath (keepsOpenTable name) path before opened
  · obtain ⟨⟨⟨path,name⟩,_⟩,-,read⟩ := Option.bind_eq_some_iff.mp read
    obtain ⟨_,-,read⟩ := Option.bind_eq_some_iff.mp read
    obtain ⟨⟨v,_⟩,value,read⟩ := Option.bind_eq_some_iff.mp read
    obtain ⟨root,inserted,read⟩ := Option.bind_eq_some_iff.mp read
    obtain ⟨_,-,last⟩ := Option.bind_eq_some_iff.mp read
    cases last
    have keeps : Keeps (insertValue v path name .header) := properInsert (valueProper maxDepth _ _ _ value)
    exact keepsAtPath keeps draft.path before inserted

theorem documentProper {draft draft' : Draft} {fuel : Nat} {cs : List Char} (before : AllProper draft.root)
    (read : document fuel draft cs = some draft') : AllProper draft'.root := by
  induction fuel generalizing draft cs with
  | zero => contradiction
  | succ fuel ih =>
    rw [document] at read
    split at read
    · cases read
      exact before
    · obtain ⟨⟨next,_⟩,read,later⟩ := Option.bind_eq_some_iff.mp read
      exact ih (lineProper before read) later

end Reader

theorem readProper {cs : List Char} {ms : Members} (read : read? cs = some ms) : Proper (.table ms) := by
  obtain ⟨draft,written,rfl⟩ := Option.map_eq_some_iff.mp read
  exact properSorted (Reader.documentProper properNone written)

end Querent.Toml
