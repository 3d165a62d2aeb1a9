import Mathlib.Data.List.TakeDrop
import Mathlib.Data.List.TakeWhile

/-! Cutting a text where a run of characters ends. -/
namespace Querent.Text
variable {inside : Char → Bool} {cs kept rest : List Char}

theorem spanAppend (all : ∀ c ∈ kept, inside c = true) (stops : ∀ c ∈ rest.head?, inside c = false) :
    (kept ++ rest).span inside = (kept,rest) := by
  rw [List.span_eq_takeWhile_dropWhile,List.takeWhile_append_of_pos all,List.dropWhile_append_of_pos all]
  cases rest with
  | nil => simp
  | cons c rest => simp [stops c rfl]

theorem spanSplit (cut : cs.span inside = (kept,rest)) :
    cs = kept ++ rest ∧ (∀ c ∈ kept, inside c = true) ∧ ∀ c ∈ rest.head?, inside c = false := by
  rw [List.span_eq_takeWhile_dropWhile] at cut
  cases cut
  refine ⟨List.takeWhile_append_dropWhile.symm,fun c => List.mem_takeWhile_imp,fun c first => ?_⟩
  have stop := List.head?_dropWhile_not inside cs
  rw [first] at stop
  simpa using stop

end Querent.Text
