/-! The order of texts by their UTF-8 octets. -/
namespace Querent.Text

def octetsOf (s : String) : List UInt8 := s.toUTF8.data.toList

def precedes (a b : String) : Bool := octetsOf a < octetsOf b

theorem octetsOfInjective {a b : String} (h : octetsOf a = octetsOf b) : a = b := by
  have h : a.toByteArray.data.toList = b.toByteArray.data.toList := h
  rw [Array.toList_inj] at h
  exact String.toByteArray_inj.1 (ByteArray.ext h)

theorem precedesTrans {a b c : String} (h : precedes a b) (k : precedes b c) : precedes a c := by
  simp only [precedes,decide_eq_true_eq] at *
  exact List.lt_trans h k

theorem precedesSelf (a : String) : precedes a a = false := by
  simp [precedes,List.lt_irrefl]

theorem eqOfIncomparable {a b : String} (h : ¬ precedes a b) (k : ¬ precedes b a) : a = b := by
  simp only [precedes,decide_eq_true_eq] at *
  exact octetsOfInjective (List.le_antisymm k h)

end Querent.Text
