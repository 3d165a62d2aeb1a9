import Querent.Sqlite.Value

/-! Numbers in texts: how much of a text is a number, and how a real is written. -/
namespace Querent.Sqlite

def isSpace (c : Char) : Bool := c == ' ' || ('\t' ≤ c && c ≤ '\r')

structure Numeral where
  negative : Bool
  coefficient : Nat
  power : Int
  whole : Bool
  deriving DecidableEq, Repr

namespace Numeral

def natOf (digits : List Char) : Nat := digits.foldl (fun n c => n * 10 + (c.toNat - 48)) 0

def sign : List Char → Bool × List Char
  | '-' :: rest => (true,rest)
  | '+' :: rest => (false,rest)
  | cs => (false,cs)

def exponent? : List Char → Option (Int × List Char)
  | e :: rest =>
    let (negative, rest) := sign rest
    let (digits, after) := rest.span Char.isDigit
    if (e == 'e' || e == 'E') && !digits.isEmpty then
      some (if negative then -Int.ofNat (natOf digits) else Int.ofNat (natOf digits),after)
    else none
  | [] => none

def scan (cs : List Char) : Option (Numeral × List Char) :=
  let (negative, rest) := sign (cs.dropWhile isSpace)
  let (whole, rest) := rest.span Char.isDigit
  let (fraction, rest) := match rest with
    | '.' :: after =>
      let (digits, after) := after.span Char.isDigit
      (some digits,after)
    | _ => (none,rest)
  let digits := whole ++ fraction.getD []
  if digits.isEmpty then none
  else
    let shift := -Int.ofNat (fraction.getD []).length
    match exponent? rest with
    | some (e, after) => some (⟨negative,natOf digits,shift + e,false⟩,after)
    | none => some (⟨negative,natOf digits,shift,fraction.isNone⟩,rest)

def toDouble (n : Numeral) : Double := .ofDecimal n.negative n.coefficient n.power

def toValue (n : Numeral) : Value :=
  let i := if n.negative then -Int.ofNat n.coefficient else Int.ofNat n.coefficient
  if n.whole then .ofInt i else .real n.toDouble

end Numeral

def numeralOf? (s : String) : Option Numeral := do
  let (n, rest) ← Numeral.scan s.toList
  if rest.all isSpace then some n else none

def integral (x : Double) : Value :=
  match x.toInt? with
  | some i => if Value.leastInteger < i ∧ i < Value.greatestInteger then .integer i else .real x
  | none => .real x

def rounded (x : Binary.Ratio) : Binary.Decimal :=
  let power := Binary.places x - 15
  (Binary.Decimal.mk (x.scale 10 (-power)).round power).stripped 20

def twoDigits (i : Int) : List Char :=
  let digits := Nat.toDigits 10 i.natAbs
  (if i < 0 then '-' else '+') :: if digits.length < 2 then '0' :: digits else digits

def scientific (d : Binary.Decimal) : List Char :=
  let digits := Nat.toDigits 10 d.coefficient
  let fraction := digits.drop 1
  digits.take 1 ++ '.' :: (if fraction.isEmpty then ['0'] else fraction)
    ++ 'e' :: twoDigits (Int.ofNat digits.length + d.power - 1)

def realText : Double → List Char
  | .finite negative mantissa exponent =>
    let text := if mantissa = 0 then ['0','.','0']
      else
        let d := rounded (Binary.magnitude mantissa exponent)
        let first := Int.ofNat (Nat.toDigits 10 d.coefficient).length + d.power - 1
        if -4 ≤ first ∧ first < 15 then Binary.positional d else scientific d
    if negative then '-' :: text else text
  | .infinite negative => if negative then "-Inf".toList else "Inf".toList
  | .nan => []

def Value.toText : Value → String
  | .null => ""
  | .integer i => String.ofList (Json.intText i)
  | .real x => String.ofList (realText x)
  | .text s => s
  | .blob octets => String.ofList (Text.Utf8.lossy octets)

def Value.toNumber : Value → Value
  | .null => .null
  | .integer i => .integer i
  | .real x => .real x
  | v => match Numeral.scan v.toText.toList with
    | some (n, _) => n.toValue
    | none => .integer 0

def Value.toInteger (v : Value) : Int :=
  match v.toNumber with
  | .integer i => i
  | .real (.finite negative mantissa exponent) =>
    let r := Binary.magnitude mantissa exponent
    let n := Int.ofNat (r.num / r.den)
    if negative then max (-n) leastInteger else min n greatestInteger
  | .real (.infinite negative) => if negative then leastInteger else greatestInteger
  | _ => 0

def Value.toReal (v : Value) : Double :=
  match v.toNumber with
  | .integer i => .ofInt i
  | .real x => x
  | _ => .zero false

def Value.truth : Value → Option Bool
  | .null => none
  | v => match v.toNumber with
    | .integer i => some (i != 0)
    | .real x => some (!x.isZero)
    | _ => some false

example : (numeralOf? " 1.50 ").map Numeral.toDouble = some (.ofDecimal false 15 (-1)) := by
  decide +kernel
example : String.ofList (realText (.ofDecimal false 1 20)) = "1.0e+20" := by decide +kernel
example : String.ofList (realText (.ofDecimal true 25 (-2))) = "-0.25" := by decide +kernel

end Querent.Sqlite
