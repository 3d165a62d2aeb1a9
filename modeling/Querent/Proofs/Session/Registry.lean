import Querent.Session.Registry

/-! What a registry says after a session came or left. Only the entry of that session can differ. -/
namespace Querent.Session

namespace Registry

def others (r : Registry) (id : Id) : List Entry := r.entries.filter fun e => e.id ≠ id

theorem othersUnregister (r : Registry) (id : Id) : (r.unregister id).1.others id = r.others id := by
  simp [others,unregister]

theorem othersRegister (r : Registry) (id : Id) (at_ : Instant) :
    (r.register id at_).1.others id = r.others id := by
  unfold register
  split
  · rfl
  · simp [others]

theorem containsIffMem {r : Registry} {id : Id} :
    r.contains id = true ↔ ∃ e ∈ r.entries, e.id = id := by
  simp [contains,get?]

theorem containsUnregister (r : Registry) (id : Id) : (r.unregister id).1.contains id = false := by
  rw [Bool.eq_false_iff,ne_eq,containsIffMem]
  rintro ⟨e,member,same⟩
  have kept := (List.mem_filter.mp member).2
  simp [same] at kept

theorem containsRegister (r : Registry) (id : Id) (at_ : Instant) :
    (r.register id at_).1.contains id = true := by
  unfold register
  split
  · assumption
  · exact containsIffMem.mpr ⟨⟨id,at_⟩,by simp,rfl⟩

theorem containsOfOthers {r r' : Registry} {id other : Id} (same : r'.others id = r.others id)
    (different : other ≠ id) : r'.contains other = r.contains other := by
  have among (r : Registry) : r.contains other = true ↔ ∃ e ∈ r.others id, e.id = other := by
    rw [containsIffMem]
    constructor
    · rintro ⟨e,member,rfl⟩
      exact ⟨e,List.mem_filter.mpr ⟨member,by simpa using different⟩,rfl⟩
    · rintro ⟨e,member,rfl⟩
      exact ⟨e,(List.mem_filter.mp member).1,rfl⟩
  rw [Bool.eq_iff_iff,among r',among r,same]

end Registry

end Querent.Session
