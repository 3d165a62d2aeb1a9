import Querent.Sql.Dialect
import Querent.Sql.ReadOnly

/-! What a text is in one dialect. What splits a text into tokens and reads statements from these may be
any parser; of its errors nothing is known but their text. -/
namespace Querent.Sql

structure Parser where
  tokens : Dialect → String → Except String (List Lexeme)
  statements : Dialect → List Lexeme → Except String (List Statement)

inductive Verdict where
  | read
  | other (label : String)
  | unparsed {error : String}
  deriving DecidableEq, Repr

def Verdict.ofStatements : List Statement → Verdict
  | [] => .other "empty query"
  | [s] => if s.isReadOnly then .read else .other s.label
  | many => .other (toString many.length ++ " statements")

namespace Parser

def parse (p : Parser) (d : Dialect) (sql : String) : Except String (List Statement) := do
  p.statements d (← p.tokens d sql)

def classify (p : Parser) (d : Dialect) (sql : String) : Verdict :=
  match p.parse d sql with
  | .ok found => .ofStatements found
  | .error error => @Verdict.unparsed error

end Parser
end Querent.Sql
