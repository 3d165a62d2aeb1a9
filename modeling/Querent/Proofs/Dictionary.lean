import Mathlib.Data.Finset.Card
import Mathlib.Data.List.Induction
import Querent.Dictionary

/-! What names stand for after entries were set. Two maps in which every name stands for the same are
equal, so that nothing but the latest entry of each name is left of how a map was made. -/
namespace Querent.Dictionary
variable {α : Type} {d e : Dictionary α} {name : String} {x : α} {entries : List (String × α)}

theorem lookupCons (entry : String × α) (rest : List (String × α)) (name : String) :
    (entry :: rest).lookup name = if name = entry.1 then some entry.2 else rest.lookup name := by
  rw [List.lookup_cons]
  split
  · rename_i same
    rw [if_pos (beq_iff_eq.mp same)]
  · rename_i other
    rw [if_neg (beq_eq_false_iff_ne.mp other)]

theorem lookupPut (name other : String) (x : α) (entries : List (String × α)) :
    (put name x entries).lookup other = if other = name then some x else entries.lookup other := by
  induction entries with
  | nil => rw [put,lookupCons]
  | cons head tail ih =>
    obtain ⟨n,y⟩ := head
    rw [put]
    split
    · rw [lookupCons]
    · split
      · rename_i replaced
        subst replaced
        rw [lookupCons,lookupCons]
        split <;> rfl
      · rename_i different
        rw [lookupCons,lookupCons,ih]
        by_cases here : other = n
        · rw [if_pos here,if_pos here,if_neg (here ▸ Ne.symm different)]
        · rw [if_neg here,if_neg here]

theorem getInsert (d : Dictionary α) (name other : String) (x : α) :
    (d.insert name x).get? other = if other = name then some x else d.get? other :=
  lookupPut name other x d.entries

theorem namesNodup (d : Dictionary α) : d.names.Nodup := by
  rw [names,List.Nodup,List.pairwise_map]
  refine d.ascending.imp fun before same => ?_
  rw [same,Text.precedesSelf] at before
  contradiction

theorem lookupIffMem (once : (entries.map (·.1)).Nodup) :
    entries.lookup name = some x ↔ (name,x) ∈ entries := by
  induction entries with
  | nil => simp
  | cons head tail ih =>
    obtain ⟨n,y⟩ := head
    obtain ⟨absent,once⟩ := List.nodup_cons.mp once
    rw [lookupCons,List.mem_cons]
    by_cases here : name = n
    · subst here
      have later : (name,x) ∉ tail := fun member => absent (List.mem_map.mpr ⟨_,member,rfl⟩)
      simp [later,eq_comm]
    · simp [here,ih once]

theorem getIff : d.get? name = some x ↔ (name,x) ∈ d.entries := lookupIffMem d.namesNodup

theorem memNames : name ∈ d.names ↔ ∃ x, d.get? name = some x := by
  simp [names,getIff]

theorem ascendingPerm {xs ys : List (String × α)} (ascending : Ascending xs) (ascending' : Ascending ys)
    (perm : xs.Perm ys) : xs = ys := by
  refine List.Perm.eq_of_pairwise (fun a b _ _ before after => ?_) ascending ascending' perm
  have cycle := Text.precedesTrans before after
  rw [Text.precedesSelf] at cycle
  contradiction

theorem extGet (same : ∀ name, d.get? name = e.get? name) : d = e := by
  have members (entry : String × α) : entry ∈ d.entries ↔ entry ∈ e.entries := by
    rw [← getIff,← getIff,same]
  refine ext (ascendingPerm d.ascending e.ascending ?_)
  exact (List.perm_ext_iff_of_nodup d.namesNodup.of_map e.namesNodup.of_map).mpr members

def map {β : Type} (f : α → β) (d : Dictionary α) : Dictionary β where
  entries := d.entries.map fun entry => (entry.1,f entry.2)
  ascending := by
    rw [Ascending,List.pairwise_map]
    exact d.ascending

theorem lookupMap {β : Type} (f : α → β) (entries : List (String × α)) (name : String) :
    (entries.map fun entry => (entry.1,f entry.2)).lookup name = (entries.lookup name).map f := by
  induction entries with
  | nil => rfl
  | cons head tail ih =>
    rw [List.map_cons,lookupCons,lookupCons,ih]
    split <;> rfl

theorem getMap {β : Type} (f : α → β) (d : Dictionary α) (name : String) :
    (d.map f).get? name = (d.get? name).map f := lookupMap f d.entries name

def latest (entries : List (String × α)) (name : String) : Option α := entries.reverse.lookup name

theorem latestSnoc (entries : List (String × α)) (entry : String × α) (name : String) :
    latest (entries ++ [entry]) name = if name = entry.1 then some entry.2 else latest entries name := by
  rw [latest,List.reverse_append,List.reverse_singleton,List.singleton_append,lookupCons,latest]

theorem latestNone : latest entries name = none ↔ name ∉ entries.map (·.1) := by
  induction entries using List.reverseRecOn with
  | nil => simp [latest]
  | append_singleton entries entry ih =>
    rw [latestSnoc,List.map_append,List.mem_append,not_or,← ih]
    by_cases same : name = entry.1 <;> simp [same]

def insertAll (d : Dictionary α) (entries : List (String × α)) : Dictionary α :=
  entries.foldl (fun d entry => d.insert entry.1 entry.2) d

theorem getInsertAll (d : Dictionary α) (entries : List (String × α)) (name : String) :
    (d.insertAll entries).get? name = (latest entries name).or (d.get? name) := by
  induction entries using List.reverseRecOn with
  | nil => rfl
  | append_singleton entries entry ih =>
    have last : d.insertAll (entries ++ [entry]) = (d.insertAll entries).insert entry.1 entry.2 := by
      rw [insertAll,List.foldl_append]
      rfl
    rw [last,getInsert,ih,latestSnoc]
    split <;> rfl

theorem getOfList (entries : List (String × α)) (name : String) :
    (ofList entries).get? name = latest entries name := by
  have none : (empty : Dictionary α).get? name = none := rfl
  rw [ofList,← insertAll,getInsertAll,none,Option.or_none]

theorem getOfListOnce (once : (entries.map (·.1)).Nodup) :
    (ofList entries).get? name = some x ↔ (name,x) ∈ entries := by
  have once : (entries.reverse.map (·.1)).Nodup := by
    rw [List.map_reverse]
    exact List.nodup_reverse.mpr once
  rw [getOfList,latest,lookupIffMem once,List.mem_reverse]

theorem memInsertAll :
    name ∈ (d.insertAll entries).names ↔ name ∈ d.names ∨ name ∈ entries.map (·.1) := by
  rw [memNames,getInsertAll,memNames]
  cases found : latest entries name with
  | none =>
    have absent := latestNone.mp found
    simp [absent]
  | some x =>
    have present : name ∈ entries.map (·.1) := by
      by_contra absent
      rw [latestNone.mpr absent] at found
      contradiction
    simp [present]

theorem sizeNames (d : Dictionary α) : d.size = d.names.toFinset.card := by
  rw [List.toFinset_card_of_nodup d.namesNodup,names,List.length_map,size]

theorem sizeInsertAll (d : Dictionary α) (entries : List (String × α)) :
    (d.insertAll entries).size = (d.names ++ entries.map (·.1)).toFinset.card := by
  rw [sizeNames]
  congr 1
  ext name
  rw [List.mem_toFinset,List.mem_toFinset,memInsertAll,List.mem_append]

end Querent.Dictionary
