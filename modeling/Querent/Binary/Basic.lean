/-! Binary floating numbers as exact values: a sign, a natural mantissa and an exponent of two.
Every operation is the exact rational one followed by one rounding to the nearest number of the
format, ties to the even mantissa. -/
namespace Querent

structure Binary.Format where
  precision : Nat
  least : Int
  greatest : Int
  deriving DecidableEq, Repr

def Binary.Format.double : Binary.Format := ⟨53,-1074,971⟩

def Binary.Format.single : Binary.Format := ⟨24,-149,104⟩

/-- A number of a format. `finite` stands for `mantissa * 2 ^ exponent` with a sign, which zero
keeps too. -/
inductive Binary (f : Binary.Format) where
  | finite (negative : Bool) (mantissa : Nat) (exponent : Int)
  | infinite (negative : Bool)
  | nan
  deriving DecidableEq, Repr

abbrev Double := Binary .double

abbrev Single := Binary .single

namespace Binary
variable {f : Format}

structure Ratio where
  num : Nat
  den : Nat
  deriving DecidableEq, Repr

def Ratio.scale (r : Ratio) (base : Nat) (power : Int) : Ratio :=
  if 0 ≤ power then ⟨r.num * Nat.pow base power.toNat,r.den⟩
  else ⟨r.num,r.den * Nat.pow base (-power).toNat⟩

def Ratio.round (r : Ratio) : Nat :=
  let quotient := r.num / r.den
  let rest := r.num % r.den
  if 2 * rest < r.den then quotient
  else if r.den < 2 * rest then quotient + 1
  else quotient + quotient % 2

def zero (negative : Bool) : Binary f := .finite negative 0 f.least

def ofRatio (negative : Bool) (r : Ratio) : Binary f :=
  if r.num = 0 then zero negative
  else
    let guess := max f.least (Int.ofNat r.num.log2 - Int.ofNat r.den.log2 - f.precision)
    let first := r.scale 2 (-guess)
    let exponent := if Nat.pow 2 f.precision ≤ first.num / first.den then guess + 1 else guess
    let mantissa := (r.scale 2 (-exponent)).round
    let (mantissa, exponent) := if mantissa = Nat.pow 2 f.precision then
        (Nat.pow 2 (f.precision - 1), exponent + 1) else (mantissa, exponent)
    if f.greatest < exponent then .infinite negative else .finite negative mantissa exponent

def ofInt (i : Int) : Binary f := ofRatio (i < 0) ⟨i.natAbs,1⟩

def ofDecimal (negative : Bool) (coefficient : Nat) (power : Int) : Binary f :=
  if coefficient = 0 then zero negative
  else if 400 < power then .infinite negative
  else if power + coefficient.log2 < -1200 then zero negative
  else ofRatio negative ((⟨coefficient,1⟩ : Ratio).scale 10 power)

def isFinite : Binary f → Bool
  | .finite .. => true
  | _ => false

def isInfinite : Binary f → Bool
  | .infinite _ => true
  | _ => false

def isZero : Binary f → Bool
  | .finite _ 0 _ => true
  | _ => false

def isNegative : Binary f → Bool
  | .finite negative _ _ => negative
  | .infinite negative => negative
  | .nan => false

def magnitude (mantissa : Nat) (exponent : Int) : Ratio := (⟨mantissa,1⟩ : Ratio).scale 2 exponent

def neg : Binary f → Binary f
  | .finite negative mantissa exponent => .finite (!negative) mantissa exponent
  | .infinite negative => .infinite (!negative)
  | .nan => .nan

def convert {g : Format} : Binary f → Binary g
  | .finite negative mantissa exponent => ofRatio negative (magnitude mantissa exponent)
  | .infinite negative => .infinite negative
  | .nan => .nan

def mul : Binary f → Binary f → Binary f
  | .finite s m e, .finite t n d => ofRatio (s != t) (magnitude (m * n) (e + d))
  | .finite s m _, .infinite t => if m = 0 then .nan else .infinite (s != t)
  | .infinite s, .finite t n _ => if n = 0 then .nan else .infinite (s != t)
  | .infinite s, .infinite t => .infinite (s != t)
  | _, _ => .nan

def div : Binary f → Binary f → Binary f
  | .finite s m e, .finite t n d =>
    if n = 0 then (if m = 0 then .nan else .infinite (s != t))
    else
      let r := magnitude m (e - d)
      ofRatio (s != t) ⟨r.num,r.den * n⟩
  | .finite s _ _, .infinite t => zero (s != t)
  | .infinite s, .finite t _ _ => .infinite (s != t)
  | _, _ => .nan

def signedAt (negative : Bool) (mantissa : Nat) (exponent lower : Int) : Int :=
  let m := Int.ofNat (mantissa * Nat.pow 2 (exponent - lower).toNat)
  if negative then -m else m

def add : Binary f → Binary f → Binary f
  | .finite s m e, .finite t n d =>
    let lower := min e d
    let sum := signedAt s m e lower + signedAt t n d lower
    if sum = 0 then zero (s && t && m == 0 && n == 0)
    else ofRatio (sum < 0) (magnitude sum.natAbs lower)
  | .infinite s, .infinite t => if s = t then .infinite s else .nan
  | .infinite s, .finite .. => .infinite s
  | .finite .., .infinite t => .infinite t
  | _, _ => .nan

def sub (x y : Binary f) : Binary f := add x y.neg

def compare? : Binary f → Binary f → Option Ordering
  | .finite s m e, .finite t n d =>
    let lower := min e d
    some (compare (signedAt s m e lower) (signedAt t n d lower))
  | .infinite s, .infinite t => some (if s = t then .eq else if s then .lt else .gt)
  | .infinite s, .finite .. => some (if s then .lt else .gt)
  | .finite .., .infinite t => some (if t then .gt else .lt)
  | _, _ => none

def toInt? : Binary f → Option Int
  | .finite negative mantissa exponent =>
    let r := magnitude mantissa exponent
    if r.num % r.den = 0 then
      some (if negative then -Int.ofNat (r.num / r.den) else Int.ofNat (r.num / r.den))
    else none
  | _ => none

end Binary

example : (Binary.ofDecimal false 1 (-1) : Double) = .finite false 7205759403792794 (-56) := by
  decide +kernel
example : (Binary.ofDecimal false 1 309 : Double) = .infinite false := by decide +kernel

end Querent
