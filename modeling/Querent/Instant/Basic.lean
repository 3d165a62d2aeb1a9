import Querent.Instant.Calendar

/-! Instants, and their text in universal time. -/
namespace Querent

/-- Seconds since the first of January 1970 and nanoseconds after them. A leap second is the second
before it with `10 ^ 9` nanoseconds or more. -/
structure Instant where
  seconds : Int
  nanos : Nat
  deriving DecidableEq, Repr

namespace Instant

def padded (width n : Nat) : List Char :=
  let digits := Nat.toDigits 10 n
  List.replicate (width - digits.length) '0' ++ digits

def yearText (year : Int) : List Char :=
  if year < 0 then '-' :: padded 4 year.natAbs
  else if 9999 < year then '+' :: padded 4 year.natAbs
  else padded 4 year.natAbs

def fractionText (nanos : Nat) : List Char :=
  if nanos = 0 then []
  else if nanos % 1000000 = 0 then '.' :: padded 3 (nanos / 1000000)
  else if nanos % 1000 = 0 then '.' :: padded 6 (nanos / 1000)
  else '.' :: padded 9 nanos

def dateText (d : Calendar.Date) : List Char :=
  yearText d.year ++ '-' :: padded 2 d.month ++ '-' :: padded 2 d.day

def clockText (hour minute second : Nat) : List Char :=
  padded 2 hour ++ ':' :: padded 2 minute ++ ':' :: padded 2 second

def wallText (between : Char) (t : Instant) : List Char :=
  let ofDay := (t.seconds.emod 86400).toNat
  let leap := t.nanos / 1000000000
  dateText (.ofDays (t.seconds.fdiv 86400)) ++ between
    :: clockText (ofDay / 3600) (ofDay / 60 % 60) (ofDay % 60 + leap)
    ++ fractionText (t.nanos - leap * 1000000000)

def render (t : Instant) : List Char := wallText 'T' t ++ ['Z']

def renderOffset (t : Instant) : List Char := wallText 'T' t ++ "+00:00".toList

example : String.ofList (render ⟨1714564800,5000⟩) = "2024-05-01T12:00:00.000005Z" := by
  decide +kernel

end Instant
end Querent
