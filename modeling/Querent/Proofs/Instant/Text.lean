import Mathlib.Data.List.TakeWhile
import Querent.Instant.Reader
import Querent.Proofs.Instant.Calendar

/-! The text of an instant is read as that instant. -/
namespace Querent.Instant
open Calendar (Date)
open Text (trimStart)

theorem natOfDigits (cs : List Char) : natOf cs = Nat.ofDigitChars 10 cs 0 := by
  rw [natOf,Nat.ofDigitChars_eq_foldl]
  congr 1
  funext n c
  rw [Nat.mul_comm]
  rfl

theorem paddedDigits (width n : Nat) : ∀ c ∈ padded width n, c.isDigit = true := by
  intro c member
  rcases List.mem_append.mp member with zero | digit
  · rw [List.eq_of_mem_replicate zero]
    rfl
  · exact Nat.isDigit_of_mem_toDigits (by decide) (by decide) digit

theorem paddedLength {width n : Nat} (some : 0 < width) (fits : n < Nat.pow 10 width) :
    (padded width n).length = width := by
  have short := (Nat.length_toDigits_le_iff (by decide : 1 < 10) some).mpr fits
  simp only [padded,List.length_append,List.length_replicate]
  omega

theorem paddedValue (width n : Nat) : natOf (padded width n) = n := by
  simp [natOfDigits,padded,Nat.ofDigitChars_append]

theorem takePadded {width n : Nat} (some : 0 < width) (fits : n < Nat.pow 10 width) (rest : List Char) :
    ((padded width n ++ rest).take width).takeWhile Char.isDigit = padded width n := by
  rw [List.take_append_of_le_length (Nat.le_of_eq (paddedLength some fits).symm),
    List.take_of_length_le (Nat.le_of_eq (paddedLength some fits)),
    List.takeWhile_eq_self_iff.mpr (paddedDigits width n)]

theorem readPadded {width n : Nat} (some_ : 0 < width) (fits : n < Nat.pow 10 width) (rest : List Char) :
    digitsUpTo width (padded width n ++ rest) = some (n,rest) := by
  have length := paddedLength some_ fits
  have filled : (padded width n).isEmpty = false := by
    rw [List.isEmpty_eq_false_iff,← List.length_pos_iff]
    omega
  simp [digitsUpTo,takePadded some_ fits,filled,paddedValue]

theorem blankNoDigit {c : Char} (digit : c.isDigit = true) : Text.isBlank c = false := by
  obtain ⟨low,high⟩ := Char.isDigit_iff_toNat.mp digit
  simp only [Char.reduceToNat] at low high
  simp only [Text.isBlank,Text.blanks,Text.withinCons,Text.withinNil,Text.Span.holds,Bool.or_false,
    Bool.or_eq_false_iff,Bool.and_eq_false_iff,decide_eq_false_iff_not]
  omega

theorem paddedStart {width n : Nat} (some : 0 < width) (fits : n < Nat.pow 10 width) :
    ∃ c cs, padded width n = c :: cs ∧ c.isDigit = true := by
  have length := paddedLength some fits
  have digits := paddedDigits width n
  cases start : padded width n with
  | nil =>
    rw [start] at length
    exact absurd length (Nat.ne_of_lt some)
  | cons c cs =>
    rw [start] at digits
    exact ⟨c,cs,rfl,digits c List.mem_cons_self⟩

theorem trimPadded {width n : Nat} (some : 0 < width) (fits : n < Nat.pow 10 width) (rest : List Char) :
    trimStart (padded width n ++ rest) = padded width n ++ rest := by
  obtain ⟨c,cs,start,digit⟩ := paddedStart some fits
  rw [start]
  exact List.dropWhile_cons_of_neg (by simp [blankNoDigit digit])

theorem rangedPadded {width low high n : Nat} (some_ : 0 < width) (fits : n < Nat.pow 10 width)
    (inRange : low ≤ n ∧ n ≤ high) (rest : List Char) :
    ranged width low high (padded width n ++ rest) = some (n,rest) := by
  simp [ranged,trimPadded some_ fits,readPadded some_ fits,inRange]

theorem readMark {c : Char} (visible : Text.isBlank c = false) (rest : List Char) :
    mark c (c :: rest) = some rest := by
  simp [mark,trimStart,visible]

theorem readYear {year : Int} (inRange : 0 ≤ year ∧ year ≤ 9999) (rest : List Char) :
    yearPart (yearText year ++ rest) = some (year,rest) := by
  have text : yearText year = padded 4 year.natAbs := by
    rw [yearText,if_neg (by omega),if_neg (by omega)]
  have fits : year.natAbs < Nat.pow 10 4 := show _ < 10000 by omega
  have same : Int.ofNat year.natAbs = year := by simp; omega
  obtain ⟨c,cs,start,digit⟩ := paddedStart (by decide) fits
  rw [text,yearPart,trimPadded (by decide) fits]
  split
  · rename_i sign
    rw [start] at sign
    cases sign
    contradiction
  · rename_i sign
    rw [start] at sign
    cases sign
    contradiction
  · rw [readPadded (by decide) fits,Option.map_some,same]

theorem readDate {d : Date} (exists_ : d.exists = true) (inYears : 0 ≤ d.year ∧ d.year ≤ 9999)
    (rest : List Char) : datePart (dateText d ++ rest) = some (d,rest) := by
  have days : Calendar.daysIn d.year d.month ≤ 31 := by
    unfold Calendar.daysIn
    split
    · split <;> decide
    · split <;> decide
  have parts := exists_
  simp only [Date.exists,Bool.and_eq_true,decide_eq_true_eq] at parts
  obtain ⟨⟨⟨january,december⟩,first⟩,last⟩ := parts
  have month : ∀ rest, ranged 2 1 12 (padded 2 d.month ++ rest) = some (d.month,rest) :=
    rangedPadded (by decide) (show _ < 100 by omega) ⟨january,december⟩
  have day : ∀ rest, ranged 2 1 31 (padded 2 d.day ++ rest) = some (d.day,rest) :=
    rangedPadded (by decide) (show _ < 100 by omega) ⟨first,Nat.le_trans last days⟩
  have range : inRange d.year = true := by
    simp only [inRange,Bool.and_eq_true,decide_eq_true_eq]
    omega
  simp [dateText,datePart,readYear inYears,readMark (c := '-') rfl,month,day,range,exists_]

theorem dropNoDigit {rest : List Char} (stops : ∀ c, rest.head? = some c → c.isDigit = false) :
    rest.dropWhile Char.isDigit = rest := by
  cases rest with
  | nil => rfl
  | cons c rest => exact List.dropWhile_cons_of_neg (by simp [stops c rfl])

theorem takeNoDigit {rest : List Char} (stops : ∀ c, rest.head? = some c → c.isDigit = false) (n : Nat) :
    (rest.take n).takeWhile Char.isDigit = [] := by
  cases rest with
  | nil => simp
  | cons c rest =>
    cases n with
    | zero => rfl
    | succ n => exact List.takeWhile_cons_of_neg (by simp [stops c rfl])

theorem readDigits {width n : Nat} (some_ : 0 < width) (short : width ≤ 9) (fits : n < Nat.pow 10 width)
    {rest : List Char} (stops : ∀ c, rest.head? = some c → c.isDigit = false) :
    fractionPart ('.' :: (padded width n ++ rest)) = some (n * Nat.pow 10 (9 - width),rest) := by
  have length := paddedLength some_ fits
  have filled : (padded width n).isEmpty = false := by
    rw [List.isEmpty_eq_false_iff,← List.length_pos_iff]
    omega
  have digits : ((padded width n ++ rest).take 9).takeWhile Char.isDigit = padded width n := by
    rw [List.take_append,List.take_of_length_le (by omega),
      List.takeWhile_append_of_pos (paddedDigits width n),takeNoDigit stops,List.append_nil]
  simp [fractionPart,digits,filled,paddedValue,length,dropNoDigit stops]

def EndsFraction (rest : List Char) : Prop := ∀ c, rest.head? = some c → c.isDigit = false ∧ c ≠ '.'

theorem readFraction {nanos : Nat} (below : nanos < 1000000000) {rest : List Char} (ends : EndsFraction rest) :
    fractionPart (fractionText nanos ++ rest) = some (nanos,rest) := by
  have stops : ∀ c, rest.head? = some c → c.isDigit = false := fun c head => (ends c head).1
  unfold fractionText
  split
  · rename_i zero
    rw [List.nil_append,zero]
    unfold fractionPart
    split
    · exact absurd rfl (ends '.' rfl).2
    · rfl
  split
  · rename_i millis
    rw [List.cons_append,readDigits (by decide) (by decide) (show _ < 1000 by omega) stops]
    exact congrArg (fun n => some (n,rest)) (Nat.div_mul_cancel (Nat.dvd_of_mod_eq_zero millis))
  split
  · rename_i micros
    rw [List.cons_append,readDigits (by decide) (by decide) (show _ < 1000000 by omega) stops]
    exact congrArg (fun n => some (n,rest)) (Nat.div_mul_cancel (Nat.dvd_of_mod_eq_zero micros))
  · rw [List.cons_append,readDigits (by decide) (by decide) below stops]
    exact congrArg (fun n => some (n,rest)) (Nat.mul_one nanos)

theorem readClock {second nanos : Nat} (inDay : second < 86400) (below : nanos < 1000000000) {rest : List Char}
    (ends : EndsFraction rest) :
    clockPart (clockText (second / 3600) (second / 60 % 60) (second % 60) ++ (fractionText nanos ++ rest)) =
      some ((second,nanos),rest) := by
  have hours : ∀ rest, ranged 2 0 23 (padded 2 (second / 3600) ++ rest) = some (second / 3600,rest) :=
    rangedPadded (by decide) (show _ < 100 by omega) (by omega)
  have minutes : ∀ rest, ranged 2 0 59 (padded 2 (second / 60 % 60) ++ rest) =
      some (second / 60 % 60,rest) := rangedPadded (by decide) (show _ < 100 by omega) (by omega)
  have seconds : ∀ rest, ranged 2 0 60 (padded 2 (second % 60) ++ rest) = some (second % 60,rest) :=
    rangedPadded (by decide) (show _ < 100 by omega) (by omega)
  have leap : second % 60 / 60 = 0 := by omega
  have sum : second / 3600 * 3600 + second / 60 % 60 * 60 + second % 60 = second := by omega
  simp [clockText,clockPart,hours,minutes,seconds,readMark (c := ':') rfl,readFraction below ends,leap,sum]

structure Plain (t : Instant) : Prop where
  year : 0 ≤ (Date.ofDays (t.seconds.fdiv 86400)).year ∧ (Date.ofDays (t.seconds.fdiv 86400)).year ≤ 9999
  nanos : t.nanos < 1000000000

theorem renderPlain {t : Instant} (plain : t.Plain) : ∃ second : Nat, second < 86400 ∧
    t.seconds = t.seconds.fdiv 86400 * 86400 + second ∧
    t.render = dateText (Date.ofDays (t.seconds.fdiv 86400)) ++ 'T' ::
      (clockText (second / 3600) (second / 60 % 60) (second % 60) ++ (fractionText t.nanos ++ ['Z'])) := by
  have quotient : t.seconds.fdiv 86400 = t.seconds / 86400 := Int.fdiv_eq_ediv_of_nonneg _ (by decide)
  have remainder : t.seconds.emod 86400 = t.seconds % 86400 := rfl
  have leap : t.nanos / 1000000000 = 0 := Nat.div_eq_of_lt plain.nanos
  refine ⟨(t.seconds.emod 86400).toNat,by omega,by omega,?_⟩
  simp [render,wallText,leap]

theorem parseRender {t : Instant} (plain : t.Plain) : parse? t.render = some t := by
  obtain ⟨second,inDay,sum,text⟩ := renderPlain plain
  have ends : EndsFraction ['Z'] := by
    rintro _ ⟨⟩
    decide
  have universal : offsetPart (trimStart ['Z']) = some (0,[]) := rfl
  have nothing : trimStart [] = [] := rfl
  simp [text,parse?,readDate (Calendar.existsOfDays _) plain.year,readClock inDay plain.nanos ends,
    universal,nothing,Calendar.toDaysOfDays,← sum]

end Querent.Instant
