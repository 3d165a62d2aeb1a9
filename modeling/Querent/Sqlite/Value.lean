import Querent.Bits
import Querent.Database.Decoder

/-! The values of SQLite, their order, and what becomes of them in a record. -/
namespace Querent.Sqlite
open Database (Decoder)

inductive Value where
  | null
  | integer (i : Int)
  | real (x : Double)
  | text (s : String)
  | blob (octets : Text.Utf8.Octets)
  deriving DecidableEq, Repr

namespace Value

instance : Inhabited Value := ⟨.null⟩

def decoders : List (Decoder Value) :=
  [fun | .null => some .null | .integer i => some (.int i) | _ => none,
    fun | .real x => some (.double x) | _ => none,
    fun | .text s => some (.text s) | _ => none,
    fun | .integer i => some (.bool (i ≠ 0)) | _ => none,
    fun
      | .text s => some (Decoder.lossy s.toUTF8.data.toList)
      | .blob octets => some (Decoder.lossy octets)
      | _ => none]

def toJson (v : Value) : Json := Database.decodeBy decoders v

def bool (b : Bool) : Value := .integer (if b then 1 else 0)

def exact (i : Int) : Double := .finite (i < 0) i.natAbs 0

def leastInteger : Int := -(Bits.count 63 : Int)

def greatestInteger : Int := Bits.count 63 - 1

def ofInt (i : Int) : Value :=
  if Bits.fits 63 i then .integer i else .real (Binary.ofInt i)

def ofDouble : Double → Value
  | .nan => .null
  | x => .real x

def isNull : Value → Bool
  | .null => true
  | _ => false

def octets : Value → List UInt8
  | .text s => s.toUTF8.data.toList
  | .blob octets => octets
  | _ => []

def rank : Value → Nat
  | .null => 0
  | .integer _ => 1
  | .real _ => 1
  | .text _ => 2
  | .blob _ => 3

def numeric? : Value → Option Double
  | .integer i => some (exact i)
  | .real x => some x
  | _ => none

def compareOctets (a b : List UInt8) : Ordering := if a < b then .lt else if b < a then .gt else .eq

def compare (a b : Value) : Ordering :=
  match a.numeric?, b.numeric? with
  | some x, some y => (x.compare? y).getD .eq
  | _, _ => (Ord.compare a.rank b.rank).then (compareOctets a.octets b.octets)

end Value
end Querent.Sqlite
