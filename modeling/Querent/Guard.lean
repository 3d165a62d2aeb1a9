import Querent.Config.Basic
import Querent.Sql.Script
import Querent.Text.Blank

/-! The guard in front of the databases: which texts may be run. A text must be a single statement that
only reads and may not hold any of a list of keywords. -/
namespace Querent

structure Guard where
  keywords : List String
  deriving DecidableEq, Repr

namespace Guard

def mandatory : List String := ["api_key", "apikey", "password", "hashedpassword"]

def add (keywords : List String) (keyword : String) : List String :=
  let keyword := Text.lowercased (Text.trimmed keyword)
  if keyword = "" ∨ keyword ∈ keywords then keywords else keywords ++ [keyword]

def ofKeywords (keywords : List String) : Guard := ⟨keywords.foldl add mandatory⟩

def ofConfig (c : GuardConfig) : Guard := ofKeywords c.restrictedKeywords

def default : Guard := ofConfig {}

inductive Refusal where
  | keyword (found : String)
  | notRead (label : String) (dialect : Sql.Dialect)
  | unparsed {postgres mysql : String}
  deriving DecidableEq, Repr

def Refusal.message : Refusal → String
  | .keyword found => "query references restricted keyword '" ++ found ++ "'"
  | .notRead label dialect =>
    "only a single read-only SELECT statement is allowed, got " ++ label ++ " (" ++ dialect.name ++ ")"
  | @unparsed postgres mysql =>
    "query could not be parsed as SQL (" ++ Sql.Dialect.postgres.name ++ ": " ++ postgres ++ "; " ++
      Sql.Dialect.mysql.name ++ ": " ++ mysql ++ ")"

def holds (part : List Char) : List Char → Bool
  | [] => part.isEmpty
  | c :: rest => part.isPrefixOf (c :: rest) || holds part rest

def keyword? (g : Guard) (sql : String) : Option String :=
  let text := Text.lower sql.toList
  g.keywords.find? fun keyword => holds keyword.toList text

def decide : (postgres mysql : Sql.Verdict) → Except Refusal Unit
  | .read, _ => .ok ()
  | .other label, _ => .error (.notRead label .postgres)
  | .unparsed, .read => .ok ()
  | .unparsed, .other label => .error (.notRead label .mysql)
  | @Sql.Verdict.unparsed postgres, @Sql.Verdict.unparsed mysql =>
    .error (@Refusal.unparsed postgres mysql)

def checkWith (p : Sql.Parser) (g : Guard) (sql : String) : Except Refusal Unit :=
  match g.keyword? sql with
  | some keyword => .error (.keyword keyword)
  | none => decide (p.classify .postgres sql) (p.classify .mysql sql)

def check (g : Guard) (sql : String) : Except Refusal Unit := checkWith Sql.Script.parser g sql

end Guard
end Querent
