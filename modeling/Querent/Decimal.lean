import Querent.Bits

/-! Exact decimal numbers: a whole number with a sign, and how many of its digits stand behind the
point. The number of digits behind the point may be negative. -/
namespace Querent

structure Decimal where
  negative : Bool
  coefficient : Nat
  scale : Int
  deriving DecidableEq, Repr

namespace Decimal

def ofGroups (negative : Bool) (weight : Int) (groups : List Nat) : Decimal where
  negative := negative
  coefficient := groups.foldl (fun n group => n * 10000 + group) 0
  scale := 4 * (groups.length - weight - 1)

def leadingZeros : Int := 5

def trailingZeros : Int := 15

def zeros (n : Int) : List Char := List.replicate n.toNat '0'

def mantissa : List Char → List Char
  | first :: second :: rest => first :: '.' :: second :: rest
  | digits => digits

def scientific (digits : List Char) (scale : Int) : List Char :=
  mantissa digits ++ 'E' :: (toString (digits.length - 1 - scale)).toList

def positional (digits : List Char) (scale : Int) : List Char :=
  if scale ≤ 0 then digits ++ zeros (-scale)
  else if scale < digits.length then
    let whole := digits.length - scale.toNat
    digits.take whole ++ '.' :: digits.drop whole
  else '0' :: '.' :: zeros (scale - digits.length) ++ digits

def magnitude (d : Decimal) : List Char :=
  let digits := Nat.toDigits 10 d.coefficient
  if leadingZeros < d.scale - digits.length then scientific digits d.scale
  else if trailingZeros < -d.scale then digits ++ 'e' :: '+' :: (toString (-d.scale)).toList
  else positional digits d.scale

def text (d : Decimal) : String :=
  if d.coefficient = 0 then "0"
  else String.ofList ((if d.negative then ['-'] else []) ++ d.magnitude)

def natural? : List Char → Option Nat
  | [] => none
  | c :: rest =>
    if c.isDigit && rest.all fun c => c.isDigit || c == '_' then
      some (((c :: rest).filter Char.isDigit).foldl (fun n c => n * 10 + (c.toNat - 48)) 0)
    else none

def signed? : List Char → Option (Bool × Nat)
  | '-' :: rest => (natural? rest).map (true,·)
  | '+' :: rest => (natural? rest).map (false,·)
  | cs => (natural? cs).map (false,·)

def power? (cs : List Char) : Option Int :=
  if cs.contains '_' then none
  else (signed? cs).map fun (negative, n) => if negative then -(n : Int) else n

def isScale (scale : Int) : Bool := Bits.fits 63 scale

def unmarked (c : Char) : Bool := c != 'e' && c != 'E'

def marked? : List Char → Option Int
  | [] => some 0
  | _ :: cs => power? cs

def numeral? (cs : List Char) : Option Decimal := do
  let (base, rest) := cs.span unmarked
  let (whole, fraction) := base.span (· != '.')
  let power ← marked? rest
  let (negative, coefficient) ← signed? (whole ++ fraction.drop 1)
  some ⟨negative,coefficient,((fraction.drop 1).filter (· != '_')).length - power⟩

def parse? (cs : List Char) : Option Decimal := (numeral? cs).filter fun d => isScale d.scale

example : (ofGroups false 0 [123,4500]).text = "123.4500" := by decide +kernel
example : (ofGroups false (-3) [1]).text = "1E-12" := by decide +kernel
example : (parse? "1e5".toList).map text = some "100000" := by decide +kernel

end Decimal
end Querent
