import Querent.Instant.Basic
import Querent.Text.Blank

/-! Reading instants. Blanks may stand between the parts, `t` or a blank may stand for the `T`, parts
may have fewer digits than they are written with, and the offset may be `Z`, `UTC` or a number of
hours and minutes. -/
namespace Querent.Instant

open Text (trimStart)

abbrev Part (α : Type) := List Char → Option (α × List Char)

def natOf (digits : List Char) : Nat := digits.foldl (fun n c => n * 10 + (c.toNat - 48)) 0

def digitsUpTo (most : Nat) : Part Nat := fun cs =>
  let digits := (cs.take most).takeWhile Char.isDigit
  if digits.isEmpty then none else some (natOf digits,cs.drop digits.length)

def ranged (most low high : Nat) : Part Nat := fun cs => do
  let (n, rest) ← digitsUpTo most (trimStart cs)
  if low ≤ n ∧ n ≤ high then some (n,rest) else none

def mark (c : Char) (cs : List Char) : Option (List Char) :=
  match trimStart cs with
  | d :: rest => if d = c then some rest else none
  | [] => none

def yearPart : Part Int := fun cs =>
  match trimStart cs with
  | '-' :: rest => (digitsUpTo rest.length rest).map (fun r => (-(Int.ofNat r.1),r.2))
  | '+' :: rest => (digitsUpTo rest.length rest).map (fun r => (Int.ofNat r.1,r.2))
  | rest => (digitsUpTo 4 rest).map (fun r => (Int.ofNat r.1,r.2))

def inRange (year : Int) : Bool := -262143 ≤ year && year ≤ 262142

def datePart : Part Calendar.Date := fun cs => do
  let (year, cs) ← yearPart cs
  let (month, cs) ← ranged 2 1 12 (← mark '-' cs)
  let (day, cs) ← ranged 2 1 31 (← mark '-' cs)
  if inRange year && (Calendar.Date.mk year month day).exists then some (⟨year,month,day⟩,cs) else none

def fractionPart : Part Nat
  | '.' :: cs => do
    let digits := (cs.take 9).takeWhile Char.isDigit
    if digits.isEmpty then none
    else some (natOf digits * Nat.pow 10 (9 - digits.length),(cs.drop digits.length).dropWhile Char.isDigit)
  | cs => some (0,cs)

def clockPart : Part (Nat × Nat) := fun cs => do
  let (hour, cs) ← ranged 2 0 23 cs
  let (minute, cs) ← ranged 2 0 59 (← mark ':' cs)
  let (second, cs) ← ranged 2 0 60 (← mark ':' cs)
  let (nanos, cs) ← fractionPart cs
  let leap := second / 60
  some ((hour * 3600 + minute * 60 + (second - leap),leap * 1000000000 + nanos),cs)

def twoDigits : Part Nat
  | a :: b :: rest => if a.isDigit && b.isDigit then some (natOf [a,b],rest) else none
  | _ => none

def offsetDigits (cs : List Char) : Option (Nat × List Char) := do
  let (hours, cs) ← twoDigits cs
  let (minutes, cs) ← twoDigits (cs.dropWhile (fun c => c == ':' || Text.isBlank c))
  if minutes < 60 then some (hours * 3600 + minutes * 60,cs) else none

def offsetPart : Part Int
  | [] => none
  | c :: cs =>
    if c = 'Z' ∨ c = 'z' then some (0,cs)
    else if ((c :: cs).take 3).map Char.toUpper = ['U','T','C'] then some (0,cs.drop 2)
    else if c = '+' then (offsetDigits cs).map (fun r => (Int.ofNat r.1,r.2))
    else if c = '-' ∨ c = '\u2212' then (offsetDigits cs).map (fun r => (-(Int.ofNat r.1),r.2))
    else none

def parse? (cs : List Char) : Option Instant := do
  let (date, cs) ← datePart cs
  let cs ← match cs with
    | c :: rest => if c = 'T' ∨ c = 't' ∨ c = ' ' then some rest else none
    | [] => none
  let ((second, nanos), cs) ← clockPart cs
  let (offset, cs) ← offsetPart (trimStart cs)
  if offset.natAbs < 86400 ∧ trimStart cs = [] then
    some ⟨date.toDays * 86400 + second - offset,nanos⟩
  else none

example : parse? "2024-02-29 0:0:0.5-05:30".toList = some ⟨1709184600,500000000⟩ := by decide
example : parse? "2023-02-29T00:00:00Z".toList = none := by decide

end Querent.Instant
