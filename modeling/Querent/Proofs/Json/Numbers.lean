import Mathlib.Data.List.TakeDrop
import Querent.Proofs.Json.Strings

/-! Reading and passing over numbers. An integer of 64 bits is read as it was; of any other number it
only matters here where it ends. -/
namespace Querent.Json

def Stops (p : Char → Bool) (cs : List Char) : Prop := ∀ c, cs.head? = some c → p c = false

def isNumeral (c : Char) : Bool := c.isDigit || c == '.' || c == 'e' || c == 'E'

abbrev Parted (cs : List Char) : Prop := Stops isNumeral cs

theorem stopsMono {p q : Char → Bool} {cs : List Char} (stops : Stops p cs)
    (less : ∀ c, q c = true → p c = true) : Stops q cs := by
  intro c head
  have out := stops c head
  cases found : q c with
  | false => rfl
  | true => exact (less c found).symm.trans out

theorem Parted.digits {cs : List Char} (parted : Parted cs) : Stops Char.isDigit cs :=
  stopsMono parted fun c digit => by simp [isNumeral,digit]

theorem Parted.letter {c : Char} {cs : List Char} (parted : Parted (c :: cs)) :
    ¬(c = 'e' ∨ c = 'E') := by
  have out := parted c rfl
  rintro (rfl | rfl) <;> contradiction

namespace Reader

theorem splitCons (c : Char) (cs : List Char) : splitDigits (c :: cs) =
    if c.isDigit then (c :: (splitDigits cs).1,(splitDigits cs).2) else ([],c :: cs) := by
  simp only [splitDigits,List.span_eq_takeWhile_dropWhile,List.takeWhile_cons,List.dropWhile_cons]
  split <;> rfl

theorem splitStops {cs : List Char} (stops : Stops Char.isDigit cs) : splitDigits cs = ([],cs) := by
  cases cs with
  | nil => rfl
  | cons c cs => simp [splitCons,stops c rfl]

theorem digitsOfSplit {cs ds rest : List Char} (split : splitDigits cs = (ds,rest)) (some : ds ≠ []) :
    Digits cs rest := by
  induction cs generalizing ds with
  | nil => cases split; contradiction
  | cons c cs ih =>
    rw [splitCons] at split
    split at split <;> cases split
    · by_cases none : (splitDigits cs).1 = []
      · have rest : (splitDigits cs).2 = cs := by
          cases cs with
          | nil => rfl
          | cons d cs =>
            rw [splitCons] at none ⊢
            split at none
            · contradiction
            · simp [*]
        rw [rest]
        exact .last (by assumption)
      · exact .more (by assumption) (ih rfl none)
    · contradiction

theorem splitOfDigits {cs rest : List Char} (digits : Digits cs rest) (stops : Stops Char.isDigit rest) :
    ∃ d ds, splitDigits cs = (d :: ds,rest) := by
  induction digits with
  | last digit => exact ⟨_,_,by rw [splitCons,if_pos digit,splitStops stops]⟩
  | more digit _ ih =>
    obtain ⟨d,ds,split⟩ := ih stops
    exact ⟨_,_,by rw [splitCons,if_pos digit,split]⟩

theorem splitAppend {ds rest : List Char} (digits : ∀ c ∈ ds, c.isDigit = true)
    (stops : Stops Char.isDigit rest) : splitDigits (ds ++ rest) = (ds,rest) := by
  induction ds with
  | nil => exact splitStops stops
  | cons d ds ih =>
    rw [List.cons_append,splitCons,if_pos (digits d List.mem_cons_self),
      ih fun c member => digits c (List.mem_cons_of_mem d member)]

theorem wholeOfPart {cs ds rest : List Char} (ok : wholePart cs = .ok (ds,rest)) : Whole cs rest := by
  unfold wholePart at ok
  split at ok
  · contradiction
  · split at ok
    · split at ok
      · contradiction
      · cases ok
        exact .zero
    · cases ok
      exact .zero
  · rename_i c cs leading
    split at ok
    · rename_i digit
      have split := Except.ok.inj ok
      refine .digits leading (digitsOfSplit split fun none => ?_)
      rw [none,splitCons,if_pos digit] at split
      cases split
    · contradiction

theorem partOfWhole {cs rest : List Char} (whole : Whole cs rest) (stops : Stops Char.isDigit rest) :
    ∃ ds, wholePart cs = .ok (ds,rest) := by
  cases whole with
  | zero =>
    refine ⟨['0'],?_⟩
    cases rest with
    | nil => rfl
    | cons c rest => simp [wholePart,stops c rfl]
  | digits leading digits =>
    obtain ⟨d,ds,split⟩ := splitOfDigits digits stops
    refine ⟨d :: ds,?_⟩
    unfold wholePart
    split
    · contradiction
    · rename_i same
      cases same
      contradiction
    · rename_i same
      cases same
      rw [if_pos (by cases digits <;> assumption),split]

theorem fractionOfPart {cs rest : List Char} {fraction : Option (List Char)}
    (ok : fractionPart cs = .ok (fraction,rest)) : Fraction cs rest := by
  unfold fractionPart at ok
  split at ok
  · split at ok
    · contradiction
    · contradiction
    · rename_i some split
      cases ok
      exact .digits (digitsOfSplit split some)
  · cases ok
    exact .none

theorem exponentOfDigits {negative : Bool} {cs rest : List Char} {exponent : Option (Bool × List Char)}
    (ok : exponentDigits negative cs = .ok (exponent,rest)) : Digits cs rest := by
  unfold exponentDigits at ok
  split at ok
  · contradiction
  · split at ok
    · contradiction
    · rename_i some split
      cases ok
      exact digitsOfSplit split some

theorem exponentOfPart {cs rest : List Char} {exponent : Option (Bool × List Char)}
    (ok : exponentPart cs = .ok (exponent,rest)) : Exponent cs rest := by
  unfold exponentPart at ok
  split at ok
  · cases ok
    exact .none
  · split at ok
    · rename_i letter
      split at ok
      · exact .digits letter (.inr (.inl rfl)) (exponentOfDigits ok)
      · exact .digits letter (.inr (.inr rfl)) (exponentOfDigits ok)
      · exact .digits letter (.inl rfl) (exponentOfDigits ok)
    · cases ok
      exact .none

theorem realRest {negative : Bool} {digits : Nat} {power : Int} {rest left : List Char} {x : Number}
    (ok : toReal negative digits power rest = .ok (x,left)) : left = rest := by
  unfold toReal at ok
  split at ok <;> cases ok
  rfl

theorem valueRest {n : Numeral} {negative : Bool} {rest left : List Char} {x : Number}
    (ok : n.value negative rest = .ok (x,left)) : left = rest := by
  unfold Numeral.value at ok
  dsimp only at ok
  split at ok
  · split at ok
    · exact realRest ok
    split at ok
    · cases ok
      rfl
    split at ok <;> cases ok <;> rfl
  · split at ok
    · exact realRest ok
    split at ok
    · split at ok <;> cases ok
      rfl
    · exact realRest ok

theorem unsignedOfNumber {negative : Bool} {cs rest : List Char} {n : Number}
    (ok : number negative cs = .ok (n,rest)) : Unsigned cs rest := by
  obtain ⟨⟨ds,es⟩,whole,ok⟩ := bindOk ok
  obtain ⟨⟨f,fs⟩,fraction,ok⟩ := bindOk ok
  obtain ⟨⟨e,gs⟩,exponent,ok⟩ := bindOk ok
  cases valueRest ok
  exact .mk (wholeOfPart whole) (fractionOfPart fraction) (exponentOfPart exponent)

theorem digitsOfIgnored {cs rest : List Char} (ok : ignoredExponentDigits cs = .ok ((),rest)) :
    Digits cs rest := by
  unfold ignoredExponentDigits at ok
  split at ok
  · contradiction
  · rename_i some split
    cases ok
    exact digitsOfSplit split some

theorem wholeOfIgnored {cs rest : List Char} (ok : ignoredWhole cs = .ok ((),rest)) : Whole cs rest := by
  unfold ignoredWhole at ok
  split at ok
  · contradiction
  · obtain ⟨⟨_,_⟩,part,same⟩ := bindOk ok
    cases same
    exact wholeOfPart part

theorem fractionOfIgnored {cs rest : List Char} (ok : ignoredFraction cs = .ok ((),rest)) :
    Fraction cs rest := by
  unfold ignoredFraction at ok
  split at ok
  · split at ok
    · contradiction
    · rename_i some split
      cases ok
      exact .digits (digitsOfSplit split some)
  · cases ok
    exact .none

theorem exponentOfIgnored {cs rest : List Char} (ok : ignoredExponent cs = .ok ((),rest)) :
    Exponent cs rest := by
  unfold ignoredExponent at ok
  split at ok
  · cases ok
    exact .none
  · split at ok
    · rename_i letter
      split at ok
      · exact .digits letter (.inr (.inl rfl)) (digitsOfIgnored ok)
      · exact .digits letter (.inr (.inr rfl)) (digitsOfIgnored ok)
      · exact .digits letter (.inl rfl) (digitsOfIgnored ok)
    · cases ok
      exact .none

theorem unsignedOfIgnored {cs rest : List Char} (ok : ignoredNumber cs = .ok ((),rest)) :
    Unsigned cs rest := by
  obtain ⟨⟨_,ds⟩,whole,ok⟩ := bindOk ok
  obtain ⟨⟨_,es⟩,fraction,exponent⟩ := bindOk ok
  exact .mk (wholeOfIgnored whole) (fractionOfIgnored fraction) (exponentOfIgnored exponent)

theorem ignoredOfExponent {cs rest : List Char} (exponent : Exponent cs rest) (parted : Parted rest) :
    ignoredExponent cs = .ok ((),rest) := by
  cases exponent with
  | none =>
    unfold ignoredExponent
    split
    · rfl
    · rename_i c cs
      rw [if_neg parted.letter]
  | @digits e cs ds _ letter sign digits =>
    obtain ⟨_,_,split⟩ := splitOfDigits digits parted.digits
    have read : ignoredExponentDigits ds = .ok ((),rest) := by
      unfold ignoredExponentDigits
      rw [split]
    unfold ignoredExponent
    dsimp only
    rw [if_pos letter]
    obtain ⟨c,_,start,digit⟩ := digitsStart digits
    rcases sign with rfl | rfl | rfl
    · subst start
      split
      · rename_i same; cases same; contradiction
      · rename_i same; cases same; contradiction
      · exact read
    · exact read
    · exact read

theorem exponentStops {cs rest : List Char} (exponent : Exponent cs rest) (parted : Parted rest) :
    Stops (fun c => c.isDigit || c == '.') cs := by
  cases exponent with
  | none => exact stopsMono parted fun c => by simp [isNumeral]; tauto
  | digits letter =>
    rintro _ ⟨⟩
    rcases letter with rfl | rfl <;> rfl

theorem fractionStops {cs ds : List Char} (fraction : Fraction cs ds) (stops : Stops Char.isDigit ds) :
    Stops Char.isDigit cs := by
  cases fraction with
  | none => exact stops
  | digits =>
    rintro _ ⟨⟩
    rfl

theorem ignoredOfFraction {cs rest : List Char} (fraction : Fraction cs rest)
    (stops : Stops (fun c => c.isDigit || c == '.') rest) : ignoredFraction cs = .ok ((),rest) := by
  cases fraction with
  | none =>
    unfold ignoredFraction
    split
    · have := stops '.' rfl
      contradiction
    · rfl
  | digits digits =>
    obtain ⟨c,ds,split⟩ := splitOfDigits digits (stopsMono stops fun c digit => by simp [digit])
    simp only [ignoredFraction,split]

theorem ignoredOfUnsigned {cs rest : List Char} (unsigned : Unsigned cs rest) (parted : Parted rest) :
    ignoredNumber cs = .ok ((),rest) := by
  obtain ⟨whole,fraction,exponent⟩ := unsigned
  rename_i ds es
  have stops := exponentStops exponent parted
  obtain ⟨_,read⟩ := partOfWhole whole
    (fractionStops fraction (stopsMono stops fun c digit => by simp [digit]))
  have start : ignoredWhole cs = .ok ((),ds) := by
    unfold ignoredWhole
    split
    · contradiction
    · rw [read]; rfl
  simp only [ignoredNumber,start,ignoredOfFraction fraction stops,bind,Except.bind]
  exact ignoredOfExponent exponent parted

theorem wholeOfDecimal (n : Nat) {rest : List Char} (stops : Stops Char.isDigit rest) :
    wholePart (Nat.toDigits 10 n ++ rest) = .ok (Nat.toDigits 10 n,rest) := by
  by_cases zero : n = 0
  · subst zero
    cases rest with
    | nil => rfl
    | cons c rest => simp [wholePart,stops c rfl]
  · obtain ⟨c,cs,digits,leading⟩ := leadingDigit zero
    have all := digitsOfDecimal n
    have split := splitAppend all stops
    rw [digits] at all split ⊢
    rw [List.cons_append] at split ⊢
    unfold wholePart
    split
    · contradiction
    · rename_i same
      cases same
      contradiction
    · rename_i same
      cases same
      rw [if_pos (all _ List.mem_cons_self),split]

theorem fitDecimal {limit kept : Nat} {cs : List Char} (fits : Nat.ofDigitChars 10 cs kept < limit) :
    fitDigits limit kept cs = (Nat.ofDigitChars 10 cs kept,0) := by
  induction cs generalizing kept with
  | nil => simp [fitDigits]
  | cons c cs ih =>
    have next : Nat.ofDigitChars 10 (c :: cs) kept = Nat.ofDigitChars 10 cs (kept * 10 + digitValue c) := by
      rw [Nat.ofDigitChars_cons,Nat.mul_comm]
      rfl
    rw [next] at fits ⊢
    have grows : kept * 10 + digitValue c ≤ Nat.ofDigitChars 10 cs (kept * 10 + digitValue c) := by
      rw [Nat.ofDigitChars_eq_ofDigitChars_zero]
      exact Nat.le_add_right_of_le (Nat.le_mul_of_pos_left _ (Nat.pow_pos (by decide)))
    rw [fitDigits,if_pos (Nat.lt_of_le_of_lt grows fits),ih fits]

theorem fractionNone {cs : List Char} (parted : Parted cs) : fractionPart cs = .ok (none,cs) := by
  unfold fractionPart
  split
  · have := parted '.' rfl
    contradiction
  · rfl

theorem exponentNone {cs : List Char} (parted : Parted cs) : exponentPart cs = .ok (none,cs) := by
  unfold exponentPart
  split
  · rfl
  · rename_i c cs
    rw [if_neg parted.letter]

theorem numberOfDecimal {n : Nat} {rest : List Char} (fits : n < Bits.count 64) (parted : Parted rest) :
    number false (Nat.toDigits 10 n ++ rest) = .ok (.integer n,rest) := by
  have fit : fitDigits (Bits.count 64) 0 (Nat.toDigits 10 n) = (n,0) := by
    rw [fitDecimal] <;> rw [Nat.ofDigitChars_ten_toDigits]
    exact fits
  simp [number,wholeOfDecimal n parted.digits,fractionNone parted,exponentNone parted,Numeral.value,fit,
    bind,Except.bind]

theorem numberOfNegative {n : Nat} {rest : List Char} (some : n ≠ 0) (fits : n ≤ Bits.count 63)
    (parted : Parted rest) :
    number true (Nat.toDigits 10 n ++ rest) = .ok (.integer (-n),rest) := by
  have fit : fitDigits (Bits.count 64) 0 (Nat.toDigits 10 n) = (n,0) := by
    rw [fitDecimal] <;> rw [Nat.ofDigitChars_ten_toDigits]
    exact Nat.lt_of_le_of_lt fits (by decide)
  simp [number,wholeOfDecimal n parted.digits,fractionNone parted,exponentNone parted,Numeral.value,fit,
    some,fits,bind,Except.bind]

end Reader
end Querent.Json
