import Querent.Sql.Command
import Querent.Sql.Lexer
import Querent.Sql.Verdict

/-! Reading a text as a list of statements, with a limit to how deep they are nested. A form of another
engine that is not read here makes the text one of no dialect; what is proved of guards holds for every
parser. -/
namespace Querent.Sql

namespace Grammar

@[reducible] def ofDepth (d : Dialect) : Nat → Grammar
  | 0 => ⟨d,fun _ => throw .tooDeep,throw .tooDeep,throw .tooDeep⟩
  | n + 1 =>
    let inner := ofDepth d n
    ⟨d,fun tightness => @Expression.tighter inner tightness,
      @Selection.query inner (@Change.change? inner),@Command.statement inner⟩

def maxDepth : Nat := 50

end Grammar

namespace Script
open Reader

def statementsFor [Grammar] : Nat → (delimited : Bool) → Reader (List Statement)
  | 0, _ => fail
  | n + 1, delimited => do
    if ← symbol? ";" then return ← statementsFor n true
    match ← peek with
    | none => return []
    | some _ =>
      if !delimited && (← seesKey "END") then return []
      require delimited
      let s ← Grammar.statement
      return s :: (← statementsFor n false)

def statements [Grammar] : Reader (List Statement) := do
  statementsFor ((← get).length + 1) true

def failure : String := "sql parser error"

def parser : Parser where
  tokens d sql := match lexemes d sql with
    | some ts => .ok ts
    | none => .error failure
  statements d ts := match @statements (Grammar.ofDepth d Grammar.maxDepth) ts with
    | .ok (found, _) => .ok found
    | .error _ => .error failure

def read? (d : Dialect) (sql : String) : Option (List Statement) := (parser.parse d sql).toOption

end Script

def Verdict.of (d : Dialect) (sql : String) : Verdict := Script.parser.classify d sql

end Querent.Sql
