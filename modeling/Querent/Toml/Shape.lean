import Querent.Bits
import Querent.Toml.Basic
import Querent.Record.Slot

/-! Reading TOML values into a given shape. -/
namespace Querent.Toml
open Record (Slot Found Fault)

def messages : Record.Notation := ⟨"unit value",Binary.plainText⟩

def found : Toml → Found
  | .text s => .text s
  | .integer i => .integer i
  | .real x => .real x
  | .boolean b => .boolean b
  | .moment => .mapping
  | .array _ => .sequence
  | .table _ => .mapping

def wrongKind {α : Type} (v : Toml) (expected : String) : Except Fault α :=
  .error (.wrongKind v.found expected)

def asText : Toml → Except Fault String
  | .text s => .ok s
  | v => wrongKind v "a string"

def asBoolean : Toml → Except Fault Bool
  | .boolean b => .ok b
  | v => wrongKind v "a boolean"

def isWide (i : Int) : Bool := i < -(Bits.count 63 : Int) || (Bits.count 64 : Int) ≤ i

def wideText (i : Int) : String :=
  "integer `" ++ toString i ++ (if i < Bits.count 127 then "` as i128" else "` as u128")

def asNatural (bound : Nat) (expected : String) : Toml → Except Fault Nat
  | .integer i =>
    if isWide i then .error (.other ("invalid type: " ++ wideText i ++ ", expected " ++ expected))
    else if 0 ≤ i ∧ i < bound then .ok i.toNat
    else .error (.wrongValue (.integer i) expected)
  | v => wrongKind v expected

def asSingle : Toml → Except Fault Single
  | .integer i =>
    if isWide i then .error (.other ("invalid type: " ++ wideText i ++ ", expected f32"))
    else .ok (.ofInt i)
  | .real x => .ok x.convert
  | v => wrongKind v "f32"

def asList {α : Type} (read : Toml → Except Fault α) : Toml → Except Fault (List α)
  | .array vs => vs.mapM read
  | v => wrongKind v "a sequence"

def asRecord {σ : Type} (name : String) (slots : List (Slot (Record.Update Toml σ))) (default : σ) :
    Toml → Except Fault σ
  | .table entries => Record.ofMembers slots [] default entries
  | .moment => Record.ofMembers slots [] default []
  | .array vs =>
    (Record.ofElements (Record.counted name slots.length) 0 slots default vs).map (·.1)
  | v => wrongKind v ("struct " ++ name)

def slot {α σ : Type} (name : String) (read : Toml → Except Fault α) (update : α → σ → σ) :
    Slot (Record.Update Toml σ) :=
  ⟨[name],false,fun v => (read v).map update⟩

end Querent.Toml
