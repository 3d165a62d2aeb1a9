import Querent.Json.Reader
import Querent.Record.Slot

/-! Reading JSON into a given shape, from text or from a value. From text the first fault in reading
order wins, be it one of grammar or one of shape. -/
namespace Querent.Json
open Record (Slot Found)

def Number.found : Number → Found
  | .integer i => .integer i
  | .real x => .real x

def found : Json → Found
  | .null => .nothing
  | .bool b => .boolean b
  | .number n => n.found
  | .text s => .text s
  | .array _ => .sequence
  | .object _ => .mapping

def wrongKind {α : Type} (j : Json) (expected : String) : Except Record.Fault α :=
  .error (.wrongKind j.found expected)

def asText : Json → Except Record.Fault String
  | .text s => .ok s
  | j => wrongKind j "a string"

def asOptional {α : Type} (read : Json → Except Record.Fault α) :
    Json → Except Record.Fault (Option α)
  | .null => .ok none
  | j => (read j).map some

def asRecord {σ : Type} (name : String) (slots : List (Slot (Record.Update Json σ))) (default : σ) :
    Json → Except Record.Fault σ
  | .object members => Record.ofMembers slots [] default members
  | .array xs =>
    match Record.ofElements (Record.counted name slots.length) 0 slots default xs with
    | .error fault => .error fault
    | .ok (record, []) => .ok record
    | .ok (_, _ :: _) => .error (.wrongLength xs.length "fewer elements in array")
  | j => wrongKind j ("struct " ++ name)

namespace Reader
variable {α σ : Type}

def pastObject (cs : List Char) : List Char :=
  match skip cs with
  | '\x7d' :: rest => rest
  | rest => rest

def pastList (cs : List Char) : List Char :=
  match skip cs with
  | ']' :: rest => rest
  | ',' :: rest => skip rest
  | rest => rest

def unexpected (expected : String) (cs : List Char) : Except Fault α :=
  let found := fun (f : Found) (rest : List Char) =>
    (stop (.shape (.wrongKind f expected)) rest : Except Fault α)
  match skip cs with
  | [] => stop .unfinishedValue []
  | c :: rest =>
    if c = '[' then found .sequence (c :: rest)
    else if c = '\x7b' then found .mapping (c :: rest)
    else match valueWith (stopNext .noValue) (stopNext .noValue) (c :: rest) with
      | .error fault => .error fault
      | .ok (j, rest) => found j.found rest

def text : Reader String := fun cs =>
  match skip cs with
  | [] => stop .unfinishedValue []
  | '"' :: rest => string rest
  | rest => unexpected "a string" rest

def optional (read : Reader α) : Reader (Option α) := fun cs =>
  match skip cs with
  | 'n' :: rest => word none ['u','l','l'] rest
  | rest => do
    let (x, rest) ← read rest
    .ok (some x,rest)

def list (read : Reader α) : Reader (List α) := fun cs =>
  match skip cs with
  | [] => stop .unfinishedValue []
  | '[' :: rest => elements read rest
  | rest => unexpected "a sequence" rest

def mapping (read : Reader α) : Reader (List (String × α)) := fun cs =>
  match skip cs with
  | [] => stop .unfinishedValue []
  | '\x7b' :: rest => do
    let step := fun name (done : List (String × α)) cs => do
      let cs ← colon cs
      let (x, cs) ← read cs
      .ok ((name,x) :: done,cs)
    let (ms, rest) ← members step [] rest
    .ok (ms.reverse,rest)
  | rest => unexpected "a map" rest

def choice (choices : List (String × α)) : Reader α := fun cs =>
  let pick := fun (name : String) (rest : List Char) =>
    match choices.lookup name with
    | some x => (.ok (x,rest) : Except Fault (α × List Char))
    | none => stop (.shape (.unknownChoice name (", ".intercalate
        (choices.map (fun c => "`" ++ c.1 ++ "`"))))) rest
  match skip cs with
  | [] => stop .unfinishedValue []
  | '"' :: rest => do
    let (name, rest) ← string rest
    pick name rest
  | '\x7b' :: rest => do
    let (name, rest) ← text rest
    let (x, rest) ← pick name rest
    let rest ← colon rest
    let (_, rest) ← match skip rest with
      | [] => stop .unfinishedValue []
      | 'n' :: rest => word () ['u','l','l'] rest
      | rest => unexpected "unit" rest
    match skip rest with
    | [] => stop .unfinishedObject []
    | '\x7d' :: rest => .ok (x,rest)
    | rest => stop .noValue rest
  | rest => stopNext .noValue rest

abbrev TextSlot (σ : Type) := Slot (Reader (σ → σ))

structure Partial (σ : Type) where
  seen : List String
  record : σ

def takeMember (slots : List (TextSlot σ)) (name : String) (p : Partial σ) : Reader (Partial σ) :=
  fun cs =>
  match Slot.find? slots name with
  | none => do
    let cs ← colon cs
    let (_, cs) ← passOver cs
    .ok (p,cs)
  | some slot =>
    if p.seen.contains slot.name then stop (.shape (.duplicate slot.name)) (pastObject cs)
    else do
      let cs ← colon cs
      let (update, cs) ← slot.read cs
      .ok (⟨slot.name :: p.seen,update p.record⟩,cs)

def recordElements (count : String) :
    (index : Nat) → List (TextSlot σ) → (first : Bool) → σ → Reader σ
  | _, [], _, record, cs => match skip cs with
    | [] => stop .unfinishedList []
    | ']' :: rest => .ok (record,rest)
    | ',' :: rest => match skip rest with
      | ']' :: rest => stopNext .trailingComma (']' :: rest)
      | rest => stopNext .trailingText rest
    | rest => stopNext .trailingText rest
  | index, slot :: slots, first, record, cs =>
    let absent := fun rest =>
      if slot.required then stop (.shape (.wrongLength index count)) (pastList rest)
      else recordElements count (index + 1) slots first record rest
    let present := fun rest => do
      let (update, rest) ← slot.read rest
      recordElements count (index + 1) slots false (update record) rest
    match skip cs with
    | [] => stop .unfinishedList []
    | ']' :: rest => absent (']' :: rest)
    | c :: rest =>
      if first then present (c :: rest)
      else if c = ',' then match skip rest with
        | [] => stop .unfinishedValue []
        | ']' :: rest => stopNext .trailingComma (']' :: rest)
        | rest => present rest
      else stopNext .noListSeparator (c :: rest)

def record (name : String) (slots : List (TextSlot σ)) (default : σ) : Reader σ := fun cs =>
  match skip cs with
  | [] => stop .unfinishedValue []
  | '\x7b' :: rest => do
    let (p, rest) ← members (takeMember slots) ⟨[],default⟩ rest
    match Slot.missing? slots p.seen with
    | some name => stop (.shape (.missing name)) rest
    | none => .ok (p.record,rest)
  | '[' :: rest => recordElements (Record.counted name slots.length) 0 slots true default rest
  | rest => unexpected ("struct " ++ name) rest

def into (read : Reader α) (update : α → σ → σ) : Reader (σ → σ) := fun cs => do
  let (x, rest) ← read cs
  .ok (update x,rest)

end Reader
end Querent.Json
