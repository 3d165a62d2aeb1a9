import Querent.Sqlite.Affinity
import Querent.Sqlite.Fault
import Querent.Sqlite.Pattern
import Querent.Sqlite.Tree

/-! What operators and functions make of values. Null is what is not known; operations on it mostly
give null. -/
namespace Querent.Sqlite

namespace Operation

def truthValue : Option Bool → Value
  | some b => .bool b
  | none => .null

def and (a b : Option Bool) : Option Bool :=
  match a, b with
  | some false, _ => some false
  | _, some false => some false
  | some true, some true => some true
  | _, _ => none

def or (a b : Option Bool) : Option Bool := (Operation.and (a.map (!·)) (b.map (!·))).map (!·)

def compared (test : Ordering → Bool) (x y : Value) : Option Bool :=
  if x.isNull || y.isNull then none else some (test (x.compare y))

def same (x y : Value) : Bool := x.compare y = .eq

def arithmetic (onInt : Int → Int → Int) (onReal : Double → Double → Double) (x y : Value) : Value :=
  match x.toNumber, y.toNumber with
  | .null, _ => .null
  | _, .null => .null
  | .integer i, .integer j => match Value.ofInt (onInt i j) with
    | .integer k => .integer k
    | _ => .ofDouble (onReal (.ofInt i) (.ofInt j))
  | a, b => .ofDouble (onReal a.toReal b.toReal)

def quotient (x y : Value) : Value :=
  match x.toNumber, y.toNumber with
  | .null, _ => .null
  | _, .null => .null
  | .integer i, .integer j => if j = 0 then .null else .ofInt (i.tdiv j)
  | a, b => if b.toReal.isZero then .null else .ofDouble (a.toReal.div b.toReal)

def remainder (x y : Value) : Value :=
  if x.isNull || y.isNull then .null
  else
    let (i, j) := (x.toInteger,y.toInteger)
    if j = 0 then .null
    else match x.toNumber, y.toNumber with
      | .integer _, .integer _ => .integer (i.tmod j)
      | _, _ => .real (.ofInt (i.tmod j))

def onBits (f : BitVec 64 → BitVec 64 → BitVec 64) (x y : Value) : Value :=
  if x.isNull || y.isNull then .null
  else .integer (f (BitVec.ofInt 64 x.toInteger) (BitVec.ofInt 64 y.toInteger)).toInt

def shift (x : BitVec 64) (places : Int) : BitVec 64 :=
  if 0 ≤ places then x <<< places.toNat else x.sshiftRight (-places).toNat

def prefixed (op : Prefix) (x : Value) : Value :=
  match op with
  | .keep => x
  | .negate => match x.toNumber with
    | .integer i => .ofInt (-i)
    | .real x => .real x.neg
    | n => n
  | .invert => if x.isNull then .null else .integer (-x.toInteger - 1)
  | .no => truthValue (x.truth.map (!·))

def infixed (op : Infix) (x y : Value) : Value :=
  match op with
  | .or => truthValue (Operation.or x.truth y.truth)
  | .and => truthValue (Operation.and x.truth y.truth)
  | .equal => truthValue (compared (· = .eq) x y)
  | .unequal => truthValue (compared (· ≠ .eq) x y)
  | .same => .bool (same x y)
  | .different => .bool (!same x y)
  | .less => truthValue (compared (· = .lt) x y)
  | .atMost => truthValue (compared (· ≠ .gt) x y)
  | .greater => truthValue (compared (· = .gt) x y)
  | .atLeast => truthValue (compared (· ≠ .lt) x y)
  | .bitAnd => onBits (· &&& ·) x y
  | .bitOr => onBits (· ||| ·) x y
  | .shiftLeft => onBits (fun a b => shift a b.toInt) x y
  | .shiftRight => onBits (fun a b => shift a (-b.toInt)) x y
  | .plus => arithmetic (· + ·) Binary.add x y
  | .minus => arithmetic (· - ·) Binary.sub x y
  | .times => arithmetic (· * ·) Binary.mul x y
  | .divided => quotient x y
  | .modulo => remainder x y
  | .concat => if x.isNull || y.isNull then .null else .text (x.toText ++ y.toText)
  | .like => if x.isNull || y.isNull then .null else .bool (Pattern.isLike y.toText x.toText)

def isComparison : Infix → Bool
  | .equal | .unequal | .same | .different | .less | .atMost | .greater | .atLeast => true
  | _ => false

def cast (type : String) (v : Value) : Value :=
  match v, Affinity.ofDeclared type with
  | .null, _ => .null
  | v, .none => .blob (match v with
    | .blob octets => octets
    | v => v.toText.toUTF8.data.toList)
  | v, .text => .text v.toText
  | v, .integer => .integer v.toInteger
  | v, .real => .real v.toReal
  | v, .numeric => match v.toNumber with
    | .real x => integral x
    | n => n

end Operation

namespace Function

structure Scalar where
  least : Nat
  most : Option Nat
  apply : List Value → Value

def firstKnown (vs : List Value) : Value := (vs.find? (!·.isNull)).getD .null

def onText (f : String → Value) : List Value → Value
  | [.null] => .null
  | [v] => f v.toText
  | _ => .null

def typeName : Value → String
  | .null => "null"
  | .integer _ => "integer"
  | .real _ => "real"
  | .text _ => "text"
  | .blob _ => "blob"

def length : List Value → Value
  | [.null] => .null
  | [.blob octets] => .integer octets.length
  | [v] => .integer v.toText.length
  | _ => .null

def absolute : List Value → Value
  | [.null] => .null
  | [v] => match v.toNumber with
    | .integer i => .ofInt i.natAbs
    | .real x => .real (if x.isNegative then x.neg else x)
    | n => n
  | _ => .null

def extreme (wanted : Ordering) : List Value → Value
  | [] => .null
  | v :: vs => if (v :: vs).any Value.isNull then .null
    else vs.foldl (fun best w => if w.compare best = wanted then w else best) v

def scalars : List (String × Scalar) :=
  [("abs",⟨1,some 1,absolute⟩),
    ("coalesce",⟨2,none,firstKnown⟩),
    ("ifnull",⟨2,some 2,firstKnown⟩),
    ("nullif",⟨2,some 2,fun vs => match vs with
      | [a, b] => if Operation.same a b then .null else a
      | _ => .null⟩),
    ("length",⟨1,some 1,length⟩),
    ("lower",⟨1,some 1,onText fun s => .text (s.map Char.toLower)⟩),
    ("upper",⟨1,some 1,onText fun s => .text (s.map Char.toUpper)⟩),
    ("typeof",⟨1,some 1,fun vs => .text (typeName ((vs[0]?).getD .null))⟩),
    ("max",⟨2,none,extreme .gt⟩),
    ("min",⟨2,none,extreme .lt⟩)]

def carry (state : Double × Double) (x : Double) : Double × Double :=
  let (sum, lost) := state
  let next := sum.add x
  let larger := fun (a b : Double) => match (if a.isNegative then a.neg else a).compare?
      (if b.isNegative then b.neg else b) with
    | some .lt => false
    | _ => true
  (next,lost.add (if larger sum x then (sum.sub next).add x else (x.sub next).add sum))

def sumReals (vs : List Value) : Double :=
  let (sum, lost) := vs.foldl (fun state v => carry state v.toReal) (.zero false,.zero false)
  if sum.isFinite then sum.add lost else sum

def allIntegers (vs : List Value) : Bool := vs.all fun v => match v with
  | .integer _ => true
  | .text s => match numeralOf? s with
    | some n => n.whole
    | none => false
  | _ => false

def sum (known : List Value) : Except Fault Value :=
  if known.isEmpty then .ok .null
  else if allIntegers known then
    match Value.ofInt (known.foldl (fun n v => n + v.toInteger) 0) with
    | .integer i => .ok (.integer i)
    | _ => .error .integerOverflow
  else .ok (.ofDouble (sumReals known))

def mean (known : List Value) : Value :=
  if known.isEmpty then .null else .ofDouble ((sumReals known).div (.ofInt known.length))

def aggregates : List (String × (List Value → Except Fault Value)) :=
  [("count",fun known => .ok (.integer known.length)),
    ("sum",sum),
    ("total",fun known => .ok (.ofDouble (sumReals known))),
    ("avg",fun known => .ok (mean known)),
    ("max",fun known => .ok (extreme .gt known)),
    ("min",fun known => .ok (extreme .lt known)),
    ("group_concat",fun known =>
      .ok (if known.isEmpty then .null else .text (",".intercalate (known.map Value.toText))))]

end Function
end Querent.Sqlite
