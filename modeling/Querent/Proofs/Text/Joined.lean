import Mathlib.Data.List.Induction
import Mathlib.Data.List.Infix

/-! Joining texts by a separator. If the separator after each text is the first that is found from the
start of the text on, the texts can be told from the joined one. -/
namespace Querent.Text
variable {separator x y rest rest' before after : List Char} {xs ys : List (List Char)}

def Free (separator x : List Char) : Prop := ¬separator <:+: x ++ separator.dropLast

theorem freeFirst (free : Free separator x) (some : separator ≠ [])
    (same : x ++ separator = before ++ separator ++ after) : after = [] := by
  induction after using List.reverseRecOn with
  | nil => rfl
  | append_singleton after last _ =>
    rw [← List.dropLast_append_getLast some,← List.append_assoc,← List.append_assoc,
      List.dropLast_append_getLast some] at same
    exact absurd ⟨before,after,(List.append_inj_left' same rfl).symm⟩ free

theorem freeCut {m : List Char} (free : Free separator (x ++ m)) (some : separator ≠ [])
    (same : separator ++ rest = m ++ (separator ++ rest')) : m = [] := by
  have begins : separator <+: m ++ separator := by
    have whole : separator <+: m ++ separator ++ rest' := by
      rw [List.append_assoc,← same]
      exact List.prefix_append _ _
    exact List.prefix_of_prefix_length_le whole (List.prefix_append _ _) (by simp)
  obtain ⟨after,next⟩ := begins
  have found : x ++ m ++ separator = x ++ separator ++ after := by
    rw [List.append_assoc,← next,List.append_assoc]
  rw [freeFirst free some found,List.append_nil] at next
  exact List.append_left_eq_self.mp next.symm

theorem cutUnique (some : separator ≠ []) (free : Free separator x) (free' : Free separator y)
    (same : x ++ separator ++ rest = y ++ separator ++ rest') : x = y ∧ rest = rest' := by
  have equal : x = y := by
    rw [List.append_assoc,List.append_assoc] at same
    rcases List.append_eq_append_iff.mp same with ⟨m,rfl,behind⟩ | ⟨m,rfl,behind⟩
    · rw [freeCut free' some behind,List.append_nil]
    · rw [freeCut free some behind,List.append_nil]
  subst equal
  exact ⟨rfl,List.append_cancel_left same⟩

theorem freeEnds (some : separator ≠ []) (free : Free separator y) : y ≠ x ++ separator ++ rest := by
  intro same
  have whole : y ++ separator = x ++ separator ++ (rest ++ separator) := by
    rw [same,List.append_assoc _ rest]
  exact some (List.append_eq_nil_iff.mp (freeFirst free some whole)).2

theorem joinedSome (some : x ≠ []) : separator.intercalate (x :: xs) ≠ [] := by
  cases xs with
  | nil => simpa using some
  | cons y xs => simp [List.intercalate_cons_cons,some]

def Parts (separator : List Char) (xs : List (List Char)) : Prop := ∀ x ∈ xs, Free separator x ∧ x ≠ []

theorem joinedInjective (some : separator ≠ []) (parts : Parts separator xs) (parts' : Parts separator ys)
    (same : separator.intercalate xs = separator.intercalate ys) : xs = ys := by
  induction xs generalizing ys with
  | nil =>
    cases ys with
    | nil => rfl
    | cons y ys => exact absurd same.symm (joinedSome (parts' y List.mem_cons_self).2)
  | cons x xs ih =>
    obtain ⟨⟨free,full⟩,later⟩ := List.forall_mem_cons.mp parts
    cases ys with
    | nil => exact absurd same (joinedSome full)
    | cons y ys =>
      obtain ⟨⟨free',-⟩,later'⟩ := List.forall_mem_cons.mp parts'
      cases xs with
      | nil =>
        cases ys with
        | nil => simpa using same
        | cons z zs =>
          rw [List.intercalate_singleton,List.intercalate_cons_cons] at same
          exact absurd same (freeEnds some free)
      | cons w ws =>
        cases ys with
        | nil =>
          rw [List.intercalate_singleton,List.intercalate_cons_cons] at same
          exact absurd same.symm (freeEnds some free')
        | cons z zs =>
          rw [List.intercalate_cons_cons,List.intercalate_cons_cons] at same
          obtain ⟨first,others⟩ := cutUnique some free free' same
          rw [first,ih later later' others]

theorem memJoined {c : Char} (member : c ∈ separator.intercalate xs) :
    c ∈ separator ∨ ∃ x ∈ xs, c ∈ x := by
  induction xs with
  | nil => simp at member
  | cons x xs ih =>
    cases xs with
    | nil => exact .inr ⟨x,List.mem_cons_self,by simpa using member⟩
    | cons y xs =>
      rw [List.intercalate_cons_cons,List.mem_append,List.mem_append] at member
      rcases member with (here | between) | later
      · exact .inr ⟨x,List.mem_cons_self,here⟩
      · exact .inl between
      · exact (ih later).imp_right fun ⟨z,there,inside⟩ => ⟨z,List.mem_cons_of_mem x there,inside⟩

theorem freeOne {c : Char} (absent : c ∉ x) : Free [c] x := by
  rintro ⟨before,after,same⟩
  apply absent
  rw [List.dropLast_singleton,List.append_nil] at same
  rw [← same]
  simp

theorem infixBehind {c : Char} {front : List Char} (absent : c ∉ front)
    (inside : c :: rest <:+: front ++ x) : c :: rest <:+: x := by
  induction front with
  | nil => exact inside
  | cons d front ih =>
    obtain ⟨other,absent⟩ := List.ne_and_not_mem_of_not_mem_cons absent
    rcases List.infix_cons_iff.mp inside with here | later
    · exact absurd (List.cons_prefix_cons.mp here).1 other
    · exact ih absent later

end Querent.Text
