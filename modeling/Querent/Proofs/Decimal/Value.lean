import Mathlib.Algebra.Field.Rat
import Mathlib.Algebra.Order.Field.Power
import Mathlib.Algebra.Order.Ring.Rat
import Mathlib.Tactic.Ring
import Querent.Proofs.Decimal.Numeral
import Querent.Proofs.Json.Grammar

/-! The rational number that a decimal number is, and the texts that stand for it. -/
namespace Querent.Decimal
open Json (digitsOfDecimal)

def value (d : Decimal) : ℚ := (if d.negative then -1 else 1) * d.coefficient * 10 ^ (-d.scale)

def Denotes (cs : List Char) (q : ℚ) : Prop := ∃ d, Spelled cs d ∧ d.value = q

theorem denotesUnique {cs : List Char} {q q' : ℚ} (denotes : Denotes cs q) (denotes' : Denotes cs q') :
    q = q' := by
  obtain ⟨d,spelled,rfl⟩ := denotes
  obtain ⟨d',spelled',rfl⟩ := denotes'
  rw [spelledUnique spelled spelled']

section Digits
variable {cs : List Char} {n : Nat} {negative : Bool}

theorem wholeDigits (some : cs ≠ []) (digits : ∀ c ∈ cs, c.isDigit = true) :
    Whole cs (Nat.ofDigitChars 10 cs 0) := by
  cases cs with
  | nil => contradiction
  | cons c rest =>
    have whole := Whole.mk (digits c List.mem_cons_self) fun d member =>
      .inl (digits d (List.mem_cons_of_mem c member))
    rw [List.filter_eq_self.mpr digits] at whole
    exact whole

theorem wholeDecimal (n : Nat) : Whole (Nat.toDigits 10 n) n := by
  have whole := wholeDigits Nat.toDigits_ne_nil (digitsOfDecimal n)
  rw [Nat.ofDigitChars_toDigits (by decide) (by decide)] at whole
  exact whole

theorem digitsOfZeros (k : Nat) : ∀ c ∈ List.replicate k '0', c.isDigit = true := by
  intro c member
  rw [List.eq_of_mem_replicate member]
  rfl

theorem wholeLeading (k n : Nat) : Whole (List.replicate k '0' ++ Nat.toDigits 10 n) n := by
  have some : List.replicate k '0' ++ Nat.toDigits 10 n ≠ [] := by simp
  have whole := wholeDigits some (List.forall_mem_append.mpr ⟨digitsOfZeros k,digitsOfDecimal n⟩)
  rw [Nat.ofDigitChars_append,Nat.ofDigitChars_replicate_zero,Nat.mul_zero,
    Nat.ofDigitChars_toDigits (by decide) (by decide)] at whole
  exact whole

theorem wholeTrailing (n k : Nat) : Whole (Nat.toDigits 10 n ++ List.replicate k '0') (10 ^ k * n) := by
  have some : Nat.toDigits 10 n ++ List.replicate k '0' ≠ [] := by simp
  have whole := wholeDigits some (List.forall_mem_append.mpr ⟨digitsOfDecimal n,digitsOfZeros k⟩)
  rw [Nat.ofDigitChars_append,Nat.ofDigitChars_replicate_zero,
    Nat.ofDigitChars_toDigits (by decide) (by decide)] at whole
  exact whole

theorem placesDigits (digits : ∀ c ∈ cs, c.isDigit = true) : places cs = cs.length := by
  rw [places,List.filter_eq_self.mpr]
  intro c member
  have digit := digits c member
  simp only [bne_iff_ne]
  rintro rfl
  contradiction

def minus (negative : Bool) : List Char := if negative then ['-'] else []

theorem signedMinus (whole : Whole cs n) (negative : Bool) : Signed (minus negative ++ cs) negative n := by
  cases negative with
  | false => exact .bare whole
  | true => exact .minus whole

theorem textNat (n : Nat) : (toString (n : Int)).toList = Nat.toDigits 10 n := by
  simp [Int.toString_eq_repr,Int.repr,Nat.repr_eq_ofList_toDigits]

theorem textNegative (n : Nat) : (toString (Int.negSucc n)).toList = '-' :: Nat.toDigits 10 (n + 1) := by
  simp [Int.toString_eq_repr,Int.repr,Nat.repr_eq_ofList_toDigits]

theorem bareDigits (n : Nat) : '_' ∉ Nat.toDigits 10 n := by
  intro member
  have digit := digitsOfDecimal n '_' member
  contradiction

theorem powerInteger (i : Int) : Power ('E' :: (toString i).toList) i := by
  cases i with
  | ofNat n =>
    rw [Int.ofNat_eq_natCast,textNat]
    exact .some (.inr rfl) (bareDigits n) (.bare (wholeDecimal n))
  | negSucc n =>
    rw [textNegative]
    exact .some (.inr rfl) (by simp) (.minus (wholeDecimal (n + 1)))

theorem powerPlus (n : Nat) : Power ('e' :: '+' :: (toString (n : Int)).toList) n := by
  rw [textNat]
  exact .some (.inl rfl) (by simp) (.plus (wholeDecimal n))

end Digits

theorem spelledWhole {cs : List Char} {n : Nat} (whole : Whole cs n) (negative : Bool) :
    Spelled (minus negative ++ cs) ⟨negative,n,0⟩ := by
  have spelled := Spelled.mk (.whole (signedMinus whole negative)) .none
  simpa using spelled

theorem pointedDigits {before after : List Char} {n : Nat} (whole : Whole (before ++ after) n)
    (digits : ∀ c ∈ after, c.isDigit = true) (negative : Bool) :
    Pointed (minus negative ++ (before ++ '.' :: after)) negative n after.length := by
  have signed := signedMinus whole negative
  rw [← List.append_assoc] at signed
  rw [← List.append_assoc,← placesDigits digits]
  exact .point signed

theorem spelledPoint {before after : List Char} {n : Nat} {scale : Int} (whole : Whole (before ++ after) n)
    (digits : ∀ c ∈ after, c.isDigit = true) (length : (after.length : Int) = scale) (negative : Bool) :
    Spelled (minus negative ++ (before ++ '.' :: after)) ⟨negative,n,scale⟩ := by
  have spelled := Spelled.mk (pointedDigits whole digits negative) .none
  rw [length,Int.sub_zero,List.append_nil] at spelled
  exact spelled

theorem mantissaPointed {ds : List Char} {n : Nat} (whole : Whole ds n)
    (digits : ∀ c ∈ ds, c.isDigit = true) (negative : Bool) :
    Pointed (minus negative ++ mantissa ds) negative n (ds.length - 1) := by
  match ds with
  | [] => exact .whole (signedMinus whole negative)
  | [first] => exact .whole (signedMinus whole negative)
  | first :: second :: rest =>
    have whole : Whole ([first] ++ second :: rest) n := whole
    exact pointedDigits whole (List.forall_mem_cons.mp digits).2 negative

theorem scientificSpelled (negative : Bool) (n : Nat) (scale : Int) :
    Spelled (minus negative ++ scientific (Nat.toDigits 10 n) scale) ⟨negative,n,scale⟩ := by
  have pointed := mantissaPointed (wholeDecimal n) (digitsOfDecimal n) negative
  have spelled := Spelled.mk pointed (powerInteger ((Nat.toDigits 10 n).length - 1 - scale))
  have long : 0 < (Nat.toDigits 10 n).length := Nat.length_toDigits_pos
  have same : (((Nat.toDigits 10 n).length - 1 : Nat) : Int) - ((Nat.toDigits 10 n).length - 1 - scale) =
    scale := by omega
  rw [same,List.append_assoc] at spelled
  exact spelled

theorem dotlessSpelled (negative : Bool) (n : Nat) {scale : Int} (below : scale ≤ 0) :
    Spelled (minus negative ++ (Nat.toDigits 10 n ++ 'e' :: '+' :: (toString (-scale)).toList))
      ⟨negative,n,scale⟩ := by
  obtain ⟨k,power⟩ := Int.eq_ofNat_of_zero_le (Int.neg_nonneg_of_nonpos below)
  have spelled := Spelled.mk (.whole (signedMinus (wholeDecimal n) negative)) (powerPlus k)
  have same : ((0 : Nat) : Int) - k = scale := by omega
  rw [same,List.append_assoc] at spelled
  rw [power]
  exact spelled

theorem valueZeros (negative : Bool) (n : Nat) {scale : Int} (below : scale ≤ 0) :
    value ⟨negative,10 ^ (-scale).toNat * n,0⟩ = value ⟨negative,n,scale⟩ := by
  obtain ⟨k,power⟩ := Int.eq_ofNat_of_zero_le (Int.neg_nonneg_of_nonpos below)
  simp only [value,power,Int.toNat_natCast,Int.neg_zero,zpow_zero,zpow_natCast]
  push_cast
  ring

theorem positionalDenotes (negative : Bool) (n : Nat) (scale : Int) :
    Denotes (minus negative ++ positional (Nat.toDigits 10 n) scale) (value ⟨negative,n,scale⟩) := by
  have digits := digitsOfDecimal n
  unfold positional
  split
  · rename_i below
    exact ⟨_,spelledWhole (wholeTrailing n (-scale).toNat) negative,valueZeros negative n below⟩
  · refine ⟨⟨negative,n,scale⟩,?_,rfl⟩
    split
    · refine spelledPoint ?_ (fun c member => digits c (List.mem_of_mem_drop member)) ?_ negative
      · rw [List.take_append_drop]
        exact wholeDecimal n
      · rw [List.length_drop]
        omega
    · have whole : Whole (['0'] ++ (zeros (scale - (Nat.toDigits 10 n).length) ++ Nat.toDigits 10 n)) n :=
        wholeLeading (_ + 1) n
      refine spelledPoint whole (List.forall_mem_append.mpr ⟨digitsOfZeros _,digits⟩) ?_ negative
      rw [List.length_append,zeros,List.length_replicate]
      omega

theorem magnitudeDenotes (d : Decimal) : Denotes (minus d.negative ++ d.magnitude) d.value := by
  simp only [magnitude]
  split
  · exact ⟨_,scientificSpelled d.negative d.coefficient d.scale,rfl⟩
  · split
    · rename_i below
      have below : d.scale ≤ 0 := by
        unfold trailingZeros at below
        omega
      exact ⟨_,dotlessSpelled d.negative d.coefficient below,rfl⟩
    · exact positionalDenotes d.negative d.coefficient d.scale

theorem textDenotes (d : Decimal) : Denotes d.text.toList d.value := by
  unfold text
  split
  · rename_i zero
    refine ⟨_,spelledWhole (wholeDecimal 0) false,?_⟩
    simp [value,zero]
  · rw [String.toList_ofList]
    exact magnitudeDenotes d

end Querent.Decimal
