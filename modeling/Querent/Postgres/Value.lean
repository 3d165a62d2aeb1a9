import Querent.Database.Decoder
import Querent.Decimal
import Querent.Text.Hex

/-! The values of PostgreSQL by the types of their columns, and what becomes of them in a record.
Times are counted from the beginning of the year 2000. -/
namespace Querent.Postgres
open Database (Decoder)

inductive Value where
  | null
  | bool (b : Bool)
  | int2 (n : Int16)
  | int4 (n : Int32)
  | int8 (n : Int64)
  | float4 (x : Single)
  | float8 (x : Double)
  | numeric (negative : Bool) (weight : Int16) (groups : List (Fin 10000))
  | notANumber
  | text (octets : Text.Utf8.Octets)
  | timestamptz (micros : Int64)
  | timestamp (micros : Int64)
  | date (days : Int32)
  | time (micros : Int64)
  | uuid (octets : Text.Utf8.Octets)
  | json (octets : Text.Utf8.Octets)
  | bytea (octets : Text.Utf8.Octets)
  | other
  deriving DecidableEq, Repr

namespace Value

def epoch : Int := 946684800

def instantOf (micros : Int64) : Instant :=
  ⟨epoch + micros.toInt.fdiv 1000000,(micros.toInt.emod 1000000).toNat * 1000⟩

def dateOf (days : Int32) : Calendar.Date := .ofDays (epoch / 86400 + days.toInt)

def clockText (micros : Int64) : List Char :=
  let second := (micros.toInt.fdiv 1000000).emod 86400 |>.toNat
  Instant.clockText (second / 3600) (second / 60 % 60) (second % 60)
    ++ Instant.fractionText ((micros.toInt.emod 1000000).toNat * 1000)

def uuidText (octets : Text.Utf8.Octets) : List Char :=
  let cs := Text.Hex.encode octets
  ['-'].intercalate [cs.take 8, (cs.drop 8).take 4, (cs.drop 12).take 4, (cs.drop 16).take 4,
    cs.drop 20]

def chars (cs : List Char) : Option Json := some (.text (String.ofList cs))

def decoders : List (Decoder Value) :=
  [fun | .null => some .null | .bool b => some (.bool b) | _ => none,
    fun | .int8 n => some (.int n.toInt) | _ => none,
    fun | .int4 n => some (.int n.toInt) | _ => none,
    fun | .int2 n => some (.int n.toInt) | _ => none,
    fun | .float8 x => some (.double x) | _ => none,
    fun | .float4 x => some (.double x.convert) | _ => none,
    fun
      | .numeric negative weight groups =>
        some (.text (Decimal.ofGroups negative weight.toInt (groups.map Fin.val)).text)
      | _ => none,
    fun | .text octets => Decoder.utf8? octets | _ => none,
    fun | .timestamptz micros => some (Decoder.instant (instantOf micros)) | _ => none,
    fun | .timestamp micros => chars ((instantOf micros).wallText ' ') | _ => none,
    fun | .date days => chars (Instant.dateText (dateOf days)) | _ => none,
    fun | .time micros => chars (clockText micros) | _ => none,
    fun | .uuid octets => chars (uuidText octets) | _ => none,
    fun | .json octets => Decoder.json? octets | _ => none,
    fun | .bytea octets => some (Decoder.lossy octets) | _ => none]

def toJson (v : Value) : Json := Database.decodeBy decoders v

example : (timestamptz 757382400000000).toJson = .text "2024-01-01T00:00:00+00:00" := by
  decide +kernel
example : (numeric true 0 [5]).toJson = .text "-5" := by decide +kernel
example : (text [0xff]).toJson = .null := by decide +kernel

end Value
end Querent.Postgres
