import Querent.Record.Fault

/-! Records read by member name or by position. A record is described by its slots in order; a
reader starts from the value with every default in place and lets each member that it meets update
the record. -/
namespace Querent.Record

structure Slot (ρ : Type) where
  names : List String
  required : Bool
  read : ρ

namespace Slot
variable {ρ : Type}

def name (slot : Slot ρ) : String := slot.names.headD ""

def answersTo (slot : Slot ρ) (name : String) : Bool := slot.names.contains name

def find? (slots : List (Slot ρ)) (name : String) : Option (Slot ρ) :=
  List.find? (·.answersTo name) slots

def missing? (slots : List (Slot ρ)) (seen : List String) : Option String :=
  (slots.find? (fun slot => slot.required && !seen.contains slot.name)).map name

end Slot

def counted (record : String) (slots : Nat) : String :=
  "struct " ++ record ++ " with " ++ toString slots ++ (if slots = 1 then " element" else " elements")

section Values
variable {α σ : Type}

abbrev Update (α σ : Type) := α → Except Fault (σ → σ)

def ofMembers (slots : List (Slot (Update α σ))) :
    (seen : List String) → σ → List (String × α) → Except Fault σ
  | seen, record, [] => match Slot.missing? slots seen with
    | some name => .error (.missing name)
    | none => .ok record
  | seen, record, (name, value) :: rest => match Slot.find? slots name with
    | none => ofMembers slots seen record rest
    | some slot =>
      if seen.contains slot.name then .error (.duplicate slot.name)
      else match slot.read value with
        | .error fault => .error fault
        | .ok update => ofMembers slots (slot.name :: seen) (update record) rest

def ofElements (count : String) :
    (index : Nat) → List (Slot (Update α σ)) → σ → List α → Except Fault (σ × List α)
  | _, [], record, rest => .ok (record,rest)
  | index, slot :: slots, record, [] =>
    if slot.required then .error (.wrongLength index count)
    else ofElements count (index + 1) slots record []
  | index, slot :: slots, record, value :: rest => match slot.read value with
    | .error fault => .error fault
    | .ok update => ofElements count (index + 1) slots (update record) rest

end Values
end Querent.Record
