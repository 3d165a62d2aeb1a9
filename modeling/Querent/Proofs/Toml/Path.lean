import Querent.Proofs.Dictionary
import Querent.Toml.Basic

/-! What stands where in a document, and a document without one of its pieces. A piece is told by the names
of the tables on its way and by its own. -/
namespace Querent.Toml

abbrev Members := List (String × Toml)

def lookupAt : (path : List String) → (name : String) → Members → Option Toml
  | [], name, ms => ms.lookup name
  | step :: path, name, ms => match ms.lookup step with
    | some (.table inner) => lookupAt path name inner
    | _ => none

def inside (change : Members → Members) : Toml → Toml
  | .table ms => .table (change ms)
  | v => v

def without : (path : List String) → (name : String) → Members → Members
  | [], name, ms => ms.filter fun m => m.1 ≠ name
  | step :: path, name, ms =>
    ms.map fun m => if m.1 = step then (m.1,m.2.inside (without path name)) else m

def Tabular : (path : List String) → Members → Prop
  | [], _ => True
  | step :: path, ms => ∀ v, ms.lookup step = some v → ∃ inner, v = .table inner ∧ Tabular path inner

instance decideTabular : (path : List String) → (ms : Members) → Decidable (Tabular path ms)
  | [], _ => .isTrue trivial
  | step :: path, ms => match found : ms.lookup step with
    | none => .isTrue fun _ there => nomatch found.symm.trans there
    | some (.table inner) => match decideTabular path inner with
      | .isTrue further => .isTrue fun v there =>
        ⟨inner,(Option.some.inj (found.symm.trans there)).symm,further⟩
      | .isFalse broken => .isFalse fun tabular => by
        obtain ⟨_,same,further⟩ := tabular _ found
        cases same
        exact broken further
    | some (.text _) | some (.integer _) | some (.real _) | some (.boolean _) | some .moment
    | some (.array _) => .isFalse fun tabular => by
      obtain ⟨_,same,-⟩ := tabular _ found
      contradiction

inductive Proper : Toml → Prop where
  | table {ms : Members} (ascending : Ascending ms) (members : ∀ m ∈ ms, Proper m.2) :
      Proper (.table ms)
  | other {v : Toml} (other : ∀ ms, v ≠ .table ms) : Proper v

variable {ms inner : Members} {path path' : List String} {name name' step : String} {v : Toml}

theorem lookupFilter (ms : Members) (name other : String) :
    (ms.filter fun m => m.1 ≠ name).lookup other = if other = name then none else ms.lookup other := by
  induction ms with
  | nil => simp
  | cons m rest ih =>
    rw [List.filter_cons,Dictionary.lookupCons]
    by_cases gone : m.1 = name
    · rw [if_neg (by simpa using gone),ih]
      by_cases same : other = name
      · rw [if_pos same,if_pos same]
      · rw [if_neg same,if_neg same,if_neg fun here => same (here.trans gone)]
    · rw [if_pos (by simpa using gone),Dictionary.lookupCons,ih]
      by_cases here : other = m.1
      · rw [if_pos here,if_pos here,if_neg fun same => gone (here.symm.trans same)]
      · rw [if_neg here,if_neg here]

theorem lookupChanged (ms : Members) (step other : String) (f : Toml → Toml) :
    (ms.map fun m => if m.1 = step then (m.1,f m.2) else m).lookup other =
      if other = step then (ms.lookup other).map f else ms.lookup other := by
  induction ms with
  | nil => simp
  | cons m rest ih =>
    have first : (if m.1 = step then (m.1,f m.2) else m).1 = m.1 := by split <;> rfl
    rw [List.map_cons,Dictionary.lookupCons,Dictionary.lookupCons,ih,first]
    by_cases here : other = m.1
    · subst here
      by_cases own : m.1 = step
      · rw [if_pos rfl,if_pos rfl,if_pos own,if_pos own]
        rfl
      · rw [if_pos rfl,if_pos rfl,if_neg own,if_neg own]
    · rw [if_neg here,if_neg here]

theorem Proper.names (proper : Proper (.table ms)) : (ms.map (·.1)).Nodup := by
  cases proper with
  | table ascending => exact Dictionary.namesNodup ⟨ms,ascending⟩
  | other other => exact absurd rfl (other ms)

theorem Proper.found (proper : Proper (.table ms)) (found : ms.lookup name = some v) : Proper v := by
  have member := (Dictionary.lookupIffMem proper.names).mp found
  cases proper with
  | table _ members => exact members (name,v) member
  | other other => exact absurd rfl (other ms)

theorem properWithout (proper : Proper (.table ms)) (path : List String) (name : String) :
    Proper (.table (without path name ms)) := by
  induction path generalizing ms with
  | nil =>
    cases proper with
    | other other => exact absurd rfl (other ms)
    | table ascending members =>
      exact .table (ascending.filter _) fun m member => members m (List.mem_filter.mp member).1
  | cons step path ih =>
    cases proper with
    | other other => exact absurd rfl (other ms)
    | table ascending members =>
      refine .table ?_ ?_
      · rw [without,Ascending,List.pairwise_map]
        refine ascending.imp fun {a b} before => ?_
        have same (m : String × Toml) :
            (if m.1 = step then (m.1,m.2.inside (without path name)) else m).1 = m.1 := by split <;> rfl
        rwa [same,same]
      · intro m changed
        obtain ⟨old,member,rfl⟩ := List.mem_map.mp changed
        have whole := members old member
        split
        · cases shape : old.2 with
          | table inner => exact ih (shape ▸ whole)
          | _ => exact .other nofun
        · exact whole

theorem tabularWithout (tabular : Tabular path ms) (path' : List String) (name : String) :
    Tabular path (without path' name ms) := by
  induction path generalizing path' ms with
  | nil => trivial
  | cons step path ih =>
    intro v found
    cases path' with
    | nil =>
      rw [without,lookupFilter] at found
      split at found
      · contradiction
      · exact tabular v found
    | cons step' path' =>
      rw [without,lookupChanged] at found
      split at found
      · obtain ⟨old,before,rfl⟩ := Option.map_eq_some_iff.mp found
        obtain ⟨inner,rfl,inside⟩ := tabular old before
        exact ⟨_,rfl,ih inside path'⟩
      · exact tabular v found

theorem lookupGone (ms : Members) (covered : path ++ [name] <+: path' ++ [name']) :
    lookupAt path' name' (without path name ms) = none := by
  induction path generalizing path' ms with
  | nil =>
    cases path' with
    | nil =>
      have same : name = name' := by simpa [List.cons_prefix_cons] using covered
      rw [without,lookupAt,lookupFilter,if_pos same.symm]
    | cons step' path' =>
      have same : name = step' := by simpa [List.cons_prefix_cons] using covered
      rw [without,lookupAt,lookupFilter,if_pos same.symm]
  | cons step path ih =>
    cases path' with
    | nil =>
      have length := covered.length_le
      simp at length
    | cons step' path' =>
      obtain ⟨rfl,further⟩ := List.cons_prefix_cons.mp covered
      rw [without,lookupAt,lookupChanged,if_pos rfl]
      cases found : ms.lookup step with
      | none => rfl
      | some v =>
        cases v with
        | table inner => exact ih inner further
        | _ => rfl

theorem lookupKept (beside : ¬path ++ [name] <+: path' ++ [name'])
    (plain : ∀ inner, lookupAt path' name' ms ≠ some (.table inner)) :
    lookupAt path' name' (without path name ms) = lookupAt path' name' ms := by
  induction path generalizing path' ms with
  | nil =>
    cases path' with
    | nil =>
      have other : ¬name' = name := fun same => beside (by simp [same])
      rw [without,lookupAt,lookupAt,lookupFilter,if_neg other]
    | cons step' path' =>
      have other : ¬step' = name := fun same => beside (by simp [same])
      rw [without,lookupAt,lookupAt,lookupFilter,if_neg other]
  | cons step path ih =>
    cases path' with
    | nil =>
      rw [lookupAt] at plain
      rw [without,lookupAt,lookupAt,lookupChanged]
      split
      · cases found : ms.lookup name' with
        | none => rfl
        | some v =>
          cases v with
          | table inner => exact absurd found (plain inner)
          | _ => rfl
      · rfl
    | cons step' path' =>
      rw [lookupAt] at plain
      rw [without,lookupAt,lookupAt,lookupChanged]
      by_cases same : step' = step
      · subst same
        have further : ¬path ++ [name] <+: path' ++ [name'] := fun start =>
          beside (List.cons_prefix_cons.mpr ⟨rfl,start⟩)
        rw [if_pos rfl]
        cases found : ms.lookup step' with
        | none => rfl
        | some v =>
          cases v with
          | table inner =>
            rw [found] at plain
            exact ih further plain
          | _ => rfl
      · rw [if_neg same]

end Querent.Toml
