import Querent.Binary.Shortest
import Querent.Text.Quoted

/-! Why a value does not have the shape that a reader asks for. The faults are the same whatever
notation the value was written in; only the spelling of numbers and of nothing differs. -/
namespace Querent.Record

inductive Found where
  | nothing
  | boolean (b : Bool)
  | integer (i : Int)
  | real (x : Double)
  | text (s : String)
  | sequence
  | mapping
  deriving DecidableEq, Repr

inductive Fault where
  | wrongKind (found : Found) (expected : String)
  | wrongValue (found : Found) (expected : String)
  | wrongLength (length : Nat) (expected : String)
  | missing (name : String)
  | duplicate (name : String)
  | unknownChoice (found expected : String)
  | other (text : String)
  deriving DecidableEq, Repr

structure Notation where
  nothing : String
  real : Double → List Char

def boolText (b : Bool) : String := if b then "true" else "false"

def Found.message (n : Notation) : Found → String
  | .nothing => n.nothing
  | .boolean b => "boolean `" ++ boolText b ++ "`"
  | .integer i => "integer `" ++ toString i ++ "`"
  | .real x => "floating point `" ++ String.ofList (n.real x) ++ "`"
  | .text s => "string " ++ Text.Quoted.quoted s
  | .sequence => "sequence"
  | .mapping => "map"

def Fault.message (n : Notation) : Fault → String
  | .wrongKind found expected => "invalid type: " ++ found.message n ++ ", expected " ++ expected
  | .wrongValue found expected => "invalid value: " ++ found.message n ++ ", expected " ++ expected
  | .wrongLength length expected =>
    "invalid length " ++ toString length ++ ", expected " ++ expected
  | .missing name => "missing field `" ++ name ++ "`"
  | .duplicate name => "duplicate field `" ++ name ++ "`"
  | .unknownChoice found expected =>
    "unknown variant `" ++ found ++ "`, expected " ++ expected
  | .other text => text

end Querent.Record
