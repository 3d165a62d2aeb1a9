import Querent.Database.Decoder
import Querent.Decimal

/-! The values of MySQL by the types of their columns, and what becomes of them in a record. -/
namespace Querent.MySql
open Database (Decoder)

structure Clock where
  hour : Nat
  minute : Nat
  second : Nat
  micros : Nat
  deriving DecidableEq, Repr

inductive Value where
  | null
  | signed (n : Int64)
  | unsigned (n : UInt64)
  | bit (isUnsigned : Bool) (octets : Text.Utf8.Octets)
  | float (x : Single)
  | double (x : Double)
  | decimal (octets : Text.Utf8.Octets)
  | text (octets : Text.Utf8.Octets)
  | binary (octets : Text.Utf8.Octets)
  | date (d : Option Calendar.Date)
  | datetime (d : Option (Calendar.Date × Clock))
  | time (days : Nat) (clock : Clock)
  | json (octets : Text.Utf8.Octets)
  | other
  deriving DecidableEq, Repr

namespace Clock

def zero : Clock := ⟨0,0,0,0⟩

def isTime (c : Clock) : Bool :=
  c.hour < 24 && c.minute < 60 && c.second < 60 && c.micros < 1000000

def text (c : Clock) : List Char :=
  Instant.clockText c.hour c.minute c.second ++ Instant.fractionText (c.micros * 1000)

end Clock

namespace Value

def bits (octets : Text.Utf8.Octets) : Nat :=
  octets.foldl (fun n octet => n * 256 + octet.toNat) 0

def truth? : Text.Utf8.Octets → Option Bool
  | [] => none
  | [octet] => some (octet ≠ 0)
  | octets =>
    let n := bits octets.reverse
    let high := Nat.pow 256 octets.length
    if octets.length ≤ 8 && (n < 128 || high - 128 ≤ n) then some (n ≠ 0) else none

def decimal? (octets : Text.Utf8.Octets) : Option Json :=
  match Text.Utf8.decode octets with
  | .ok cs => (Decimal.parse? cs).map fun d => .text d.text
  | .error _ => none

def moment? (d : Calendar.Date) (c : Clock) : Option Instant :=
  if d.exists && c.isTime then
    let second := c.hour * 3600 + c.minute * 60 + c.second
    some ⟨d.toDays * 86400 + second,c.micros * 1000⟩
  else none

def instant? (d : Calendar.Date) (c : Clock) : Option Json := (moment? d c).map Decoder.instant

def wall? (d : Calendar.Date) (c : Clock) : Option Json :=
  (moment? d c).map fun t => .text (String.ofList (t.wallText ' '))

def date? (d : Calendar.Date) : Option Json :=
  if d.exists then some (.text (String.ofList (Instant.dateText d))) else none

def time? (days : Nat) (c : Clock) : Option Json :=
  if days = 0 && c.isTime then some (.text (String.ofList c.text)) else none

def signedIn (bits : Nat) : Decoder Value
  | .null => some .null
  | .signed n => if Bits.fits bits n.toInt then some (.int n.toInt) else none
  | _ => none

def unsignedIn (limit : Nat) : Decoder Value
  | .unsigned n => if n.toNat < Bits.count limit then some (.nat n.toNat) else none
  | .bit true octets =>
    let n := bits octets % Bits.count 64
    if n < Bits.count limit then some (.nat n) else none
  | _ => none

/-- The decoders in the order in which they are tried. The narrow integers take what the wide ones take,
truth values are small integers or bits, and the one for JSON takes text and octets too. -/
def decoders : List (Decoder Value) :=
  [signedIn 63, unsignedIn 64, signedIn 31, unsignedIn 32, signedIn 15, unsignedIn 16, signedIn 7,
    unsignedIn 8,
    fun
      | .signed n => if Bits.fits 7 n.toInt then some (.bool (n ≠ 0)) else none
      | .bit _ octets => (truth? octets).map .bool
      | _ => none,
    fun | .double x => some (.double x) | .float x => some (.double x.convert) | _ => none,
    fun
      | .double x => some (.double (x.convert : Single).convert)
      | .float x => some (.double x.convert)
      | _ => none,
    fun | .decimal octets => decimal? octets | _ => none,
    fun | .text octets => Decoder.utf8? octets | _ => none,
    fun | .datetime d => d.bind fun (d, c) => instant? d c | _ => none,
    fun | .datetime d => d.bind fun (d, c) => wall? d c | _ => none,
    fun | .date d => d.bind date? | _ => none,
    fun | .time days clock => time? days clock | _ => none,
    fun
      | .json octets => Decoder.json? octets
      | .text octets => Decoder.json? octets
      | .binary octets => Decoder.json? octets
      | _ => none,
    fun
      | .text octets => some (Decoder.lossy octets)
      | .binary octets => some (Decoder.lossy octets)
      | _ => none]

def toJson (v : Value) : Json := Database.decodeBy decoders v

example : (signed (-1)).toJson = .int (-1) := by decide +kernel
example : (binary "[1]".toUTF8.data.toList).toJson = .array [.int 1] := by decide +kernel
example : (text [0x61,0xff]).toJson = .text "a\ufffd" := by decide +kernel
example : (datetime (some (⟨2024,1,1⟩,.zero))).toJson = .text "2024-01-01T00:00:00+00:00" := by
  decide +kernel

end Value
end Querent.MySql
