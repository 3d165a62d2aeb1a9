import Querent.Sql.Dialect
import Querent.Sql.Tree

/-! Readers of token lists. A reader either takes tokens from the front or fails; nesting is limited,
and to be too deep is a failure that no alternative is tried after. -/
namespace Querent.Sql

inductive Stop where
  | mismatch
  | tooDeep
  deriving DecidableEq, Repr

abbrev Reader (α : Type) := StateT (List Lexeme) (Except Stop) α

/-- The grammar of a dialect, with what may be nested one level deeper: expressions that bind more
tightly than some level, queries and statements. -/
class Grammar where
  dialect : Dialect
  tighter : Nat → Reader Expr
  query : Reader Query
  statement : Reader Statement

namespace Reader
variable {α β : Type}

def fail : Reader α := throw .mismatch

def attempt (r : Reader α) : Reader (Option α) := fun ts =>
  match r ts with
  | .ok (x, rest) => .ok (some x,rest)
  | .error .mismatch => .ok (none,ts)
  | .error .tooDeep => .error .tooDeep

def require (condition : Bool) : Reader Unit := if condition then pure () else fail

def ahead? (n : Nat) : Reader (Option Token) := return ((← get)[n]?).map (·.token)

def peek : Reader (Option Token) := ahead? 0

def next : Reader Token := do
  match ← get with
  | [] => fail
  | t :: rest => set rest; return t.token

def skip : Reader Unit := modify (·.drop 1)

def keyOf : Option Token → String
  | some (.word w) => w.key
  | _ => ""

def keyAhead (n : Nat) : Reader String := return keyOf (← ahead? n)

def peekKey : Reader String := keyAhead 0

def seesKey (key : String) : Reader Bool := return (← peekKey) == key

def seesSymbol (s : String) : Reader Bool := return (← peek) == some (.symbol s)

def key? (key : String) : Reader Bool := do
  if ← seesKey key then skip; return true else return false

def keyAmong? (keys : List String) : Reader (Option String) := do
  let key ← peekKey
  if keys.contains key then skip; return some key else return none

def keys? (keys : List String) : Reader Bool := fun ts =>
  if keys = (ts.take keys.length).map (fun t => keyOf (some t.token)) then
    .ok (true,ts.drop keys.length)
  else .ok (false,ts)

def key (key : String) : Reader Unit := do require (← key? key)

def keys (keys : List String) : Reader Unit := do require (← keys? keys)

def keyAmong (keys : List String) : Reader String := do
  match ← keyAmong? keys with
  | some key => return key
  | none => fail

def symbol? (s : String) : Reader Bool := do
  if ← seesSymbol s then skip; return true else return false

def symbol (s : String) : Reader Unit := do require (← symbol? s)

def given (condition : Bool) (r : Reader Bool) : Reader Bool :=
  if condition then r else return false

def optional (condition : Reader Bool) (r : Reader α) : Reader (Option α) := do
  if ← condition then return some (← r) else return none

def manyFor (step : Reader (Option α)) : Nat → Reader (List α)
  | 0 => return []
  | n + 1 => do
    match ← step with
    | some x => return x :: (← manyFor step n)
    | none => return []

def many (step : Reader (Option α)) : Reader (List α) := do
  manyFor step ((← get).length + 1)

def separated (separator : Reader Bool) (item : Reader α) : Reader (List α) := do
  let first ← item
  return first :: (← many (optional separator item))

def commas (item : Reader α) : Reader (List α) := separated (symbol? ",") item

def parens (r : Reader α) : Reader α := do
  symbol "("
  let x ← r
  symbol ")"
  return x

def tuple (item : Reader α) : Reader (List α) := parens (commas item)

def tuple0 (item : Reader α) : Reader (List α) := do
  symbol "("
  if ← symbol? ")" then return []
  let items ← commas item
  symbol ")"
  return items

def word : Reader Word := do
  match ← next with
  | .word w => return w
  | .constant .plain s => return ⟨s,some '\'',""⟩
  | .constant .double s => return ⟨s,some '"',""⟩
  | _ => fail

def name : Reader Name := separated (symbol? ".") word

def columns : Reader (List Word) := tuple word

def count : Reader Unit := do
  match ← next with
  | .number s => require (s.toList.all Char.isDigit)
  | _ => fail

def string : Reader Unit := do
  match ← next with
  | .constant .plain _ => pure ()
  | .constant .double _ => pure ()
  | _ => fail

variable [Grammar]

def isPostgres : Bool := Grammar.dialect.isPostgres

def isMySql : Bool := Grammar.dialect.isMySql

def expr : Reader Expr := Grammar.tighter 0

end Reader
end Querent.Sql
