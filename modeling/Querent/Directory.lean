import Querent.Text.Split

/-! A working directory: its entries by name, and what a path leads to. Nothing is known of what lies
outside. -/
namespace Querent

inductive Directory.Entry (α : Type) where
  | directory
  | file (content : α)
  deriving DecidableEq, Repr

abbrev Directory (α : Type) := List (String × Directory.Entry α)

namespace Directory
variable {α : Type}

abbrev Steps := List (List Char)

def joined (steps : Steps) : String := String.ofList (['/'].intercalate steps)

def at? (d : Directory α) (steps : Steps) : Option (Entry α) :=
  if steps = [] then some .directory
  else match d.lookup (joined steps) with
    | some e => some e
    | none =>
      if d.any fun m => ((joined steps).toList ++ ['/']).isPrefixOf m.1.toList then some .directory
      else none

def follow (d : Directory α) (done : Steps) : Steps → Option Steps
  | [] => some done
  | step :: rest => match d.at? done with
    | some .directory =>
      if step = [] ∨ step = ['.'] then follow d done rest
      else if step = ['.', '.'] then if done = [] then none else follow d done.dropLast rest
      else follow d (done ++ [step]) rest
    | _ => none

def isIdle (step : List Char) : Bool := step = [] || step = ['.'] || step = ['.', '.']

def find? (d : Directory α) (path : String) : Option (Entry α) :=
  let steps := Text.split '/' path.toList
  if path = "" then none
  else if path.toList.head? = some '/' then if steps.all isIdle then some .directory else none
  else (d.follow [] steps).bind d.at?

def significant (path : String) : Steps :=
  match Text.split '/' path.toList with
  | first :: rest => first :: rest.filter fun step => step ≠ [] && step ≠ ['.']
  | [] => []

def isSamePath (a b : String) : Bool := significant a == significant b

example : isSamePath "a//b/./" "a/b" ∧ ¬ isSamePath "./a" "a" := by decide +kernel

end Directory
end Querent
