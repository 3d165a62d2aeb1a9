/-! The Gregorian calendar carried on in both directions. A year is counted from March here, so that
the leap day is its last day and the months before it have fixed lengths. -/
namespace Querent.Calendar

structure Date where
  year : Int
  month : Nat
  day : Nat
  deriving DecidableEq, Repr

def cycle : Nat := 146097

def epoch : Nat := 719468

def isLeap (year : Int) : Bool :=
  year.emod 4 == 0 && (year.emod 100 != 0 || year.emod 400 == 0)

def daysIn (year : Int) (month : Nat) : Nat :=
  if month = 2 then (if isLeap year then 29 else 28)
  else if month = 4 ∨ month = 6 ∨ month = 9 ∨ month = 11 then 30
  else 31

def Date.exists (d : Date) : Bool :=
  1 ≤ d.month && d.month ≤ 12 && 1 ≤ d.day && d.day ≤ daysIn d.year d.month

/-- The year of the cycle and the day of that year, from March, of a day of the cycle. -/
def splitCycle (day : Nat) : Nat × Nat :=
  let year := (day - day / 1460 + day / 36524 - day / 146096) / 365
  (year,day - (365 * year + year / 4 - year / 100))

def Date.ofDays (days : Int) : Date :=
  let shifted := days + epoch
  let (year, day) := splitCycle (shifted.emod cycle).toNat
  let march := (5 * day + 2) / 153
  let month := if march < 10 then march + 3 else march - 9
  ⟨shifted.fdiv cycle * 400 + year + (if month ≤ 2 then 1 else 0),month,
    day - (153 * march + 2) / 5 + 1⟩

def Date.toDays (d : Date) : Int :=
  let year := if d.month ≤ 2 then d.year - 1 else d.year
  let ofCycle := (year.emod 400).toNat
  let march := if d.month > 2 then d.month - 3 else d.month + 9
  let day := (153 * march + 2) / 5 + d.day - 1
  year.fdiv 400 * cycle + (365 * ofCycle + ofCycle / 4 - ofCycle / 100 + day : Nat) - epoch

example : Date.ofDays 19844 = ⟨2024,5,1⟩ := by decide
example : Date.toDays ⟨2024,2,29⟩ = 19782 := by decide
example : Date.ofDays (-719529) = ⟨-1,12,31⟩ := by decide

end Querent.Calendar
