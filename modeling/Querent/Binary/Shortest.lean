import Querent.Binary.Basic

/-! The shortest decimal that reads back: the fewest digits that lie between the two midpoints to a
number's neighbours, and of those the nearest to it. -/
namespace Querent.Binary

structure Decimal where
  coefficient : Nat
  power : Int
  deriving DecidableEq, Repr

def Ratio.less (x y : Ratio) : Bool := x.num * y.den < y.num * x.den

def Ratio.atMost (x y : Ratio) : Bool := x.num * y.den ≤ y.num * x.den

structure Interval where
  low : Ratio
  high : Ratio
  closed : Bool

def Interval.holds (i : Interval) (x : Ratio) : Bool :=
  if i.closed then i.low.atMost x && x.atMost i.high else i.low.less x && x.less i.high

def intervalOf (f : Format) (mantissa : Nat) (exponent : Int) : Interval :=
  let below := if mantissa = Nat.pow 2 (f.precision - 1) ∧ f.least < exponent then 1 else 2
  ⟨magnitude (4 * mantissa - below) (exponent - 2),magnitude (4 * mantissa + 2) (exponent - 2),
    mantissa % 2 == 0⟩

def placesFrom (x : Ratio) : (tries : Nat) → (guess : Int) → Int
  | 0, guess => guess
  | tries + 1, guess =>
    if x.less ((⟨1,1⟩ : Ratio).scale 10 guess) then guess else placesFrom x tries (guess + 1)

def places (x : Ratio) : Int :=
  placesFrom x 8 ((Int.ofNat x.num.log2 - Int.ofNat x.den.log2 - 1) * 30103 / 100000 - 1)

def onGrid (i : Interval) (x : Ratio) (power : Int) : Option Decimal :=
  let at_ := fun (c : Nat) => (⟨c,1⟩ : Ratio).scale 10 power
  let scaled := x.scale 10 (-power)
  let floor := scaled.num / scaled.den
  match i.holds (at_ floor), i.holds (at_ (floor + 1)) with
  | true, true =>
    let below := 2 * (scaled.num % scaled.den)
    if below < scaled.den || (below == scaled.den && floor % 2 == 0) then some ⟨floor,power⟩
    else some ⟨floor + 1,power⟩
  | true, false => some ⟨floor,power⟩
  | false, true => some ⟨floor + 1,power⟩
  | false, false => none

def firstOnGrid (i : Interval) (x : Ratio) : (digits : Nat) → (power : Int) → Decimal
  | 0, power => ⟨(x.scale 10 (-power)).round,power⟩
  | digits + 1, power => (onGrid i x power).getD (firstOnGrid i x digits (power - 1))

def Decimal.stripped : (fuel : Nat) → Decimal → Decimal
  | 0, d => d
  | fuel + 1, d => if d.coefficient ≠ 0 ∧ d.coefficient % 10 = 0 then
      stripped fuel ⟨d.coefficient / 10,d.power + 1⟩ else d

def shortest (f : Format) (mantissa : Nat) (exponent : Int) : Decimal :=
  let x := magnitude mantissa exponent
  (firstOnGrid (intervalOf f mantissa exponent) x 17 (places x - 1)).stripped 20

structure Layout where
  first : Int
  last : Int

def digitsOf (n : Nat) : List Char := Nat.toDigits 10 n

def zeros (n : Nat) : List Char := List.replicate n '0'

def exponentText (i : Int) : List Char :=
  (if i < 0 then '-' else '+') :: digitsOf i.natAbs

def positional (d : Decimal) : List Char :=
  let digits := digitsOf d.coefficient
  let point := Int.ofNat digits.length + d.power
  if 0 ≤ d.power then digits ++ zeros d.power.toNat ++ ['.','0']
  else if 0 < point then digits.take point.toNat ++ '.' :: digits.drop point.toNat
  else ['0','.'] ++ zeros (-point).toNat ++ digits

def scientific (d : Decimal) : List Char :=
  let digits := digitsOf d.coefficient
  let power := Int.ofNat digits.length + d.power - 1
  let mantissa := match digits with
    | [c] => [c]
    | c :: rest => c :: '.' :: rest
    | [] => []
  mantissa ++ 'e' :: exponentText power

def Layout.write (layout : Layout) (d : Decimal) : List Char :=
  let power := Int.ofNat (digitsOf d.coefficient).length + d.power - 1
  if layout.first ≤ power ∧ power < layout.last then positional d else scientific d

def writeFinite (layout : Layout) (f : Format) (negative : Bool) (mantissa : Nat) (exponent : Int) :
    List Char :=
  let text := if mantissa = 0 then ['0','.','0']
    else layout.write (shortest f mantissa exponent)
  if negative then '-' :: text else text

def plain : Layout := ⟨-100000,100000⟩

def plainText {f : Format} : Binary f → List Char
  | .finite negative mantissa exponent => writeFinite plain f negative mantissa exponent
  | .infinite negative => if negative then "-inf".toList else "inf".toList
  | .nan => "NaN".toList

end Querent.Binary
