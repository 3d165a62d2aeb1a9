import Querent.Text.Order

/-! Finite maps from names, kept in ascending order of the names' octets. Setting a name replaces
what it had before, as a whole. -/
namespace Querent

def Ascending {α : Type} (entries : List (String × α)) : Prop :=
  entries.Pairwise (fun a b => Text.precedes a.1 b.1 = true)

structure Dictionary (α : Type) where
  entries : List (String × α)
  ascending : Ascending entries

namespace Dictionary
variable {α : Type}

instance [Repr α] : Repr (Dictionary α) := ⟨fun d n => reprPrec d.entries n⟩

theorem ext {d e : Dictionary α} (h : d.entries = e.entries) : d = e := by
  cases d; cases e; cases h; rfl

instance [DecidableEq α] : DecidableEq (Dictionary α) := fun d e =>
  decidable_of_iff (d.entries = e.entries) ⟨ext,fun h => h ▸ rfl⟩

def empty : Dictionary α := ⟨[],.nil⟩

instance : Inhabited (Dictionary α) := ⟨empty⟩

def put (name : String) (x : α) : List (String × α) → List (String × α)
  | [] => [(name,x)]
  | (n, y) :: rest =>
    if Text.precedes name n then (name,x) :: (n,y) :: rest
    else if name = n then (name,x) :: rest
    else (n,y) :: put name x rest

theorem memPut {name : String} {x : α} {entry : String × α} {entries : List (String × α)}
    (h : entry ∈ put name x entries) : entry = (name,x) ∨ entry ∈ entries := by
  induction entries with
  | nil => simpa [put] using h
  | cons head tail ih =>
    obtain ⟨n, y⟩ := head
    rw [put] at h
    split at h
    · simpa using h
    · split at h
      · rcases List.mem_cons.1 h with h | h
        · exact .inl h
        · exact .inr (List.mem_cons_of_mem _ h)
      · rcases List.mem_cons.1 h with h | h
        · exact .inr (by simp [h])
        · exact (ih h).imp id (List.mem_cons_of_mem _)

theorem ascendingPut (name : String) (x : α) {entries : List (String × α)}
    (h : Ascending entries) : Ascending (put name x entries) := by
  induction entries with
  | nil => simp [put,Ascending]
  | cons head tail ih =>
    obtain ⟨n, y⟩ := head
    obtain ⟨above, rest⟩ := List.pairwise_cons.1 h
    rw [put]
    split
    · rename_i before
      refine List.pairwise_cons.2 ⟨fun entry member => ?_,h⟩
      rcases List.mem_cons.1 member with rfl | member
      · exact before
      · exact Text.precedesTrans before (above entry member)
    · split
      · rename_i same; subst same
        exact List.pairwise_cons.2 ⟨above,rest⟩
      · rename_i notBefore different
        refine List.pairwise_cons.2 ⟨fun entry member => ?_,ih rest⟩
        rcases memPut member with rfl | member
        · cases after : Text.precedes n name with
          | true => rfl
          | false => exact absurd (Text.eqOfIncomparable notBefore (by simp [after])) different
        · exact above entry member

def insert (d : Dictionary α) (name : String) (x : α) : Dictionary α :=
  ⟨put name x d.entries,ascendingPut name x d.ascending⟩

def get? (d : Dictionary α) (name : String) : Option α := d.entries.lookup name

def contains (d : Dictionary α) (name : String) : Bool := (d.get? name).isSome

def names (d : Dictionary α) : List String := d.entries.map (·.1)

def size (d : Dictionary α) : Nat := d.entries.length

def isEmpty (d : Dictionary α) : Bool := d.entries.isEmpty

def ofList (entries : List (String × α)) : Dictionary α :=
  entries.foldl (fun d entry => d.insert entry.1 entry.2) empty

end Dictionary
end Querent
