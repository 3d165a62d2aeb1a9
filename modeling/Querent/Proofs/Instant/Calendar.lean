import Querent.Instant.Calendar

/-! Every day has one date of the calendar, and the date gives back the day. -/
namespace Querent.Calendar

structure Splits (day year ofYear : Nat) : Prop where
  inCycle : year < 400
  sum : day + year / 100 = 365 * year + year / 4 + ofYear
  inYear : ofYear ≤ 365
  leapDay : ofYear = 365 → (year + 1) % 4 = 0 ∧ ((year + 1) % 100 ≠ 0 ∨ (year + 1) % 400 = 0)

theorem splitsCycle {day : Nat} (inCycle : day < cycle) :
    Splits day (splitCycle day).1 (splitCycle day).2 := by
  simp only [cycle] at inCycle
  simp only [splitCycle]
  generalize found : (day - day / 1460 + day / 36524 - day / 146096) / 365 = year
  -- With the century known what is left is linear.
  have centuries : day / 36524 = 0 ∨ day / 36524 = 1 ∨ day / 36524 = 2 ∨ day / 36524 = 3 ∨
      day = 146096 := by omega
  have century : year / 100 = min (day / 36524) 3 := by
    rcases centuries with h | h | h | h | h <;> omega
  have last : day / 146096 = 0 ∨ day = 146096 := by omega
  have fourths : day / 1460 = year / 4 ∨ day / 1460 = year / 4 + 1 := by
    rcases centuries with h | h | h | h | h <;> rcases last with l | l <;> omega
  have leap : day - (365 * year + year / 4 - year / 100) = 365 → year % 4 = 3 := by
    rcases centuries with h | h | h | h | h <;> rcases fourths with f | f <;> rcases last with l | l <;> omega
  refine ⟨?_,?_,?_,?_⟩ <;> rcases centuries with h | h | h | h | h <;> omega

/-- A day by the four centuries it lies in, its year of them from March, its month from March, and its
day of that month. -/
structure Dated (days cycles : Int) (year march day : Nat) (d : Date) : Prop where
  count : days + epoch = cycles * cycle + (365 * year + year / 4 - year / 100 + (153 * march + 2) / 5 + day : Nat)
  inCycle : year < 400
  inYear : march ≤ 11
  inMonth : day < (153 * march + 155) / 5 - (153 * march + 2) / 5 ∧ (march = 11 → day ≤ 28)
  leapDay : march = 11 → day = 28 → (year + 1) % 4 = 0 ∧ ((year + 1) % 100 ≠ 0 ∨ (year + 1) % 400 = 0)
  date : d = ⟨cycles * 400 + year + (if march < 10 then 0 else 1),
    if march < 10 then march + 3 else march - 9,day + 1⟩

theorem datedOfDays (days : Int) :
    ∃ cycles year march day, Dated days cycles year march day (.ofDays days) := by
  have remainder : (days + epoch).emod cycle = (days + 719468) % 146097 := rfl
  have quotient : (days + epoch).fdiv cycle = (days + 719468) / 146097 :=
    Int.fdiv_eq_ediv_of_nonneg _ (by decide)
  have inCycle : ((days + epoch).emod cycle).toNat < cycle := by
    rw [remainder,cycle]
    omega
  obtain ⟨inCycle,sum,inYear,leapDay⟩ := splitsCycle inCycle
  simp only [Date.ofDays]
  generalize splitCycle ((days + epoch).emod cycle).toNat = split at *
  obtain ⟨year,ofYear⟩ := split
  dsimp only at *
  rw [remainder] at sum
  rw [quotient]
  refine ⟨(days + 719468) / 146097,year,(5 * ofYear + 2) / 153,
    ofYear - (153 * ((5 * ofYear + 2) / 153) + 2) / 5,?_,inCycle,?_,⟨?_,?_⟩,?_,?_⟩
  · simp only [cycle,epoch]
    omega
  · omega
  · omega
  · omega
  · exact fun march day => leapDay (by omega)
  · congr 1
    split <;> split <;> omega

theorem toDaysOfDays (days : Int) : (Date.ofDays days).toDays = days := by
  obtain ⟨cycles,year,march,day,count,inCycle,inYear,-,-,date⟩ := datedOfDays days
  have remainder : (cycles * 400 + year : Int).emod 400 = year := by
    show (cycles * 400 + year : Int) % 400 = year
    omega
  have quotient : (cycles * 400 + year : Int).fdiv 400 = cycles := by
    rw [Int.fdiv_eq_ediv_of_nonneg _ (by decide)]
    omega
  rw [date]
  by_cases early : march < 10
  · have month : ¬ march + 3 ≤ 2 := by omega
    simp only [Date.toDays,early,month,if_true,if_false,Int.add_zero,remainder,quotient,
      show march + 3 > 2 by omega]
    omega
  · have month : march - 9 ≤ 2 := by omega
    simp only [Date.toDays,early,month,if_true,if_false,Int.add_sub_cancel,remainder,quotient,
      show ¬ march - 9 > 2 by omega]
    omega

theorem isLeapOf {year : Int} (fourth : year % 4 = 0) (century : year % 100 ≠ 0 ∨ year % 400 = 0) :
    isLeap year = true := by
  have quarter : year.emod 4 = 0 := fourth
  simp only [isLeap,quarter,Bool.and_eq_true,Bool.or_eq_true,bne_iff_ne,beq_iff_eq]
  exact ⟨trivial,century⟩

theorem existsOfDays (days : Int) : (Date.ofDays days).exists = true := by
  obtain ⟨cycles,year,march,day,-,inCycle,inYear,inMonth,leapDay,date⟩ := datedOfDays days
  rw [date]
  by_cases early : march < 10
  · simp only [Date.exists,early,if_true,Bool.and_eq_true,decide_eq_true_eq]
    refine ⟨⟨⟨by omega,by omega⟩,by omega⟩,?_⟩
    simp only [daysIn]
    split
    · omega
    split <;> omega
  · simp only [Date.exists,early,if_false,Bool.and_eq_true,decide_eq_true_eq]
    refine ⟨⟨⟨by omega,by omega⟩,by omega⟩,?_⟩
    simp only [daysIn]
    split
    · split
      · omega
      · rename_i common
        by_cases last : day = 28
        · obtain ⟨fourth,century⟩ := leapDay (by omega) last
          exact absurd (isLeapOf (by omega) (by omega)) common
        · omega
    split <;> omega

end Querent.Calendar
