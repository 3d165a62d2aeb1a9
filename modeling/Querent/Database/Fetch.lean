import Querent.ResultSet

/-! Taking rows from what a statement gives: a feed of rows that a fault may end. Rows are taken while
there is room for them, and of those that are left one is looked at. -/
namespace Querent.Database

abbrev Cells (ν : Type) := List (String × ν)

abbrev Feed (ε ν : Type) := List (Except ε (Cells ν))

variable {ε ν : Type}

def Cells.names (cells : Cells ν) : List String := cells.map (·.1)

def record (decode : ν → Json) (cells : Cells ν) : Row :=
  Json.settle (cells.map fun cell => (cell.1,decode cell.2))

/-- Adds a row if there is room for it, and says whether there was. A set that is full is marked. The
first row that has columns names those of the set. -/
def push (maxRows : Nat) (r : ResultSet) (columns : List String) (row : Row) : ResultSet × Bool :=
  if maxRows ≤ r.size then ({ r with truncated := true },false)
  else ({ r with columns := if r.columns.isEmpty then columns else r.columns, rows := r.rows ++ [row] },
    true)

def fill (decode : ν → Json) (maxRows : Nat) : ResultSet → Feed ε ν → Except ε ResultSet
  | r, [] => .ok r
  | _, .error fault :: _ => .error fault
  | r, .ok cells :: rest => match push maxRows r cells.names (record decode cells) with
    | (r, true) => fill decode maxRows r rest
    | (r, false) => .ok r

def collect (decode : ν → Json) (maxRows : Nat) (feed : Feed ε ν) : Except ε ResultSet :=
  fill decode maxRows .empty feed

end Querent.Database
