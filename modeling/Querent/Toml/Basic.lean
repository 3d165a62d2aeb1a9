import Querent.Binary.Basic
import Querent.Dictionary

/-! TOML values, and the document that is built line by line: which tables a header or a dotted key
may still open or extend. -/
namespace Querent

inductive Toml where
  | text (s : String)
  | integer (i : Int)
  | real (x : Double)
  | boolean (b : Bool)
  | moment
  | array (elements : List Toml)
  | table (entries : List (String × Toml))
  deriving Repr

namespace Toml

/-- How a table came about, which decides what may still be added to it. -/
inductive Origin where
  | header
  | passed
  | dotted
  deriving DecidableEq, Repr

inductive Node where
  | value (v : Toml)
  | table (origin : Origin) (entries : List (String × Node))
  | series (elements : List (List (String × Node)))
  deriving Repr

abbrev Entries := List (String × Node)

def replace (name : String) (node : Node) : Entries → Entries
  | [] => [(name,node)]
  | (n, old) :: rest => if n = name then (n,node) :: rest else (n,old) :: replace name node rest

/-- Sets the value of a dotted key. The tables on its way must have been made by dotted keys, or are
made now; a table that a header passed through may only be passed through again. -/
def insertValue (value : Toml) : (path : List String) → (name : String) → (origin : Origin) →
    Entries → Option Entries
  | [], name, origin, entries =>
    if origin = .passed ∨ (entries.lookup name).isSome then none
    else some (entries ++ [(name,.value value)])
  | step :: path, name, _, entries =>
    match entries.lookup step with
    | none => do
      let inner ← insertValue value path name .dotted []
      some (entries ++ [(step,.table .dotted inner)])
    | some (.table .header _) => none
    | some (.table origin inner) => do
      let inner ← insertValue value path name origin inner
      some (replace step (.table origin inner) entries)
    | some _ => none

def atPath (change : Entries → Option Entries) : (path : List String) → Entries → Option Entries
  | [], entries => change entries
  | step :: path, entries =>
    match entries.lookup step with
    | none => do
      let inner ← atPath change path []
      some (entries ++ [(step,.table .passed inner)])
    | some (.table origin inner) => do
      let inner ← atPath change path inner
      some (replace step (.table origin inner) entries)
    | some (.series (latest :: earlier)) => do
      let inner ← atPath change path latest
      some (replace step (.series (inner :: earlier)) entries)
    | some _ => none

def openTable (name : String) (entries : Entries) : Option Entries :=
  match entries.lookup name with
  | none => some (entries ++ [(name,.table .header [])])
  | some (.table .passed inner) => some (replace name (.table .header inner) entries)
  | some _ => none

def openElement (name : String) (entries : Entries) : Option Entries :=
  match entries.lookup name with
  | none => some (entries ++ [(name,.series [[]])])
  | some (.series elements) => some (replace name (.series ([] :: elements)) entries)
  | some _ => none

mutual
def Node.toToml : Node → Toml
  | .value v => v
  | .table _ entries => .table (sorted entries)
  | .series elements => .array (seriesOf elements).reverse

def sorted : List (String × Node) → List (String × Toml)
  | [] => []
  | (name, node) :: rest => Dictionary.put name node.toToml (sorted rest)

def seriesOf : List (List (String × Node)) → List Toml
  | [] => []
  | entries :: rest => .table (sorted entries) :: seriesOf rest
end

end Toml
end Querent
