import Querent.Sqlite.Fault
import Querent.Sqlite.Token
import Querent.Sqlite.Tree
import Querent.Text.Blank

/-! Reading statements from tokens. A reader goes forward only, so that the token at which it fails is
the first one that cannot stand where it stands. -/
namespace Querent.Sqlite

structure Page where
  text : List Char
  ending : Fault

abbrev Reader (α : Type) := ReaderT Page (StateT (List Lexeme) (Except Fault)) α

namespace Reader
variable {α : Type}

def fail : Reader α := do
  match ← get with
  | [] => throw (← read).ending
  | l :: _ => throw (.near l.spelling)

def ahead? (n : Nat) : Reader (Option Token) := return ((← get)[n]?).map (·.token)

def skip : Reader Unit := modify (·.drop 1)

def keyOf : Option Token → String
  | some (.word key) => key
  | _ => ""

def peekKey : Reader String := return keyOf (← ahead? 0)

def key? (key : String) : Reader Bool := do
  if (← peekKey) == key then skip; return true else return false

def key (key : String) : Reader Unit := do
  unless ← key? key do fail

def symbol? (s : String) : Reader Bool := do
  if (← ahead? 0) == some (.symbol s) then skip; return true else return false

def symbol (s : String) : Reader Unit := do
  unless ← symbol? s do fail

def manyFor (step : Reader (Option α)) : Nat → Reader (List α)
  | 0 => return []
  | n + 1 => do
    match ← step with
    | some x => return x :: (← manyFor step n)
    | none => return []

def many (step : Reader (Option α)) : Reader (List α) := do
  manyFor step ((← get).length + 1)

def optional (condition : Reader Bool) (r : Reader α) : Reader (Option α) := do
  if ← condition then return some (← r) else return none

def commas (item : Reader α) : Reader (List α) := do
  let first ← item
  return first :: (← many (optional (symbol? ",") item))

def parens (r : Reader α) : Reader α := do
  symbol "("
  let x ← r
  symbol ")"
  return x

def nameOf (joins : Bool) : Lexeme → Option String
  | ⟨.word key, spelling, _⟩ =>
    if reserved.contains key || (!joins && joinWords.contains key) then none else some spelling
  | ⟨.quoted name _, _, _⟩ => some name
  | _ => none

def name? (joins texts : Bool) : Reader (Option String) := do
  match ← get with
  | [] => return none
  | l :: rest =>
    let found := match l.token with
      | .text s => if texts then some s else none
      | _ => nameOf joins l
    if found.isSome then set rest
    return found

def name : Reader String := do
  match ← name? true true with
  | some s => return s
  | none => fail

def label : Reader (Option String) := do
  if ← key? "AS" then return some (← name) else name? false true

def tableName : Reader String := do
  let first ← name
  if ← symbol? "." then name else return first

def chain (operators : List (String × Infix)) (operand : Reader Expr) : Reader Expr := do
  let first ← operand
  let rest ← many do
    match ← ahead? 0 with
    | some (.symbol s) => match operators.lookup s with
      | some op => skip; return some (op, ← operand)
      | none => return none
    | some (.word w) => match operators.lookup w with
      | some op => skip; return some (op, ← operand)
      | none => return none
    | _ => return none
  return rest.foldl (fun left (op, right) => .infixed op left right) first

def prefixes (operators : List (String × Prefix)) (operand : Reader Expr) : Reader Expr := do
  let found ← many do
    match ← ahead? 0 with
    | some (.symbol s) => match operators.lookup s with
      | some op => skip; return some op
      | none => return none
    | some (.word w) => match operators.lookup w with
      | some op => skip; return some op
      | none => return none
    | _ => return none
  return found.foldr .prefixed (← operand)

def negatedIf (negated : Bool) (e : Expr) : Expr := if negated then .prefixed .no e else e

def comparison (operand inner : Reader Expr) (query : Reader Query) (left : Expr) :
    Reader (Option Expr) := do
  match ← ahead? 0 with
  | some (.symbol s) =>
    if s == "=" || s == "==" then skip; return some (.infixed .equal left (← operand))
    else if s == "<>" || s == "!=" then skip; return some (.infixed .unequal left (← operand))
    else return none
  | some (.word "IS") =>
    skip
    let negated ← key? "NOT"
    let distinct ← key? "DISTINCT"
    if distinct then key "FROM"
    return some (.infixed (if negated != distinct then .different else .same) left (← operand))
  | some (.word "ISNULL") => skip; return some (.infixed .same left (.constant .null))
  | some (.word "NOTNULL") => skip; return some (.infixed .different left (.constant .null))
  | some (.word w) =>
    if ! ["NOT", "IN", "LIKE", "BETWEEN"].contains w then return none
    let negated ← key? "NOT"
    if negated && (← key? "NULL") then return some (.infixed .different left (.constant .null))
    if ← key? "IN" then
      symbol "("
      let e ← if ["SELECT", "VALUES", "WITH"].contains (← peekKey) then
          .inQuery left <$> query
        else if (← ahead? 0) == some (.symbol ")") then pure (.oneOf left [])
        else .oneOf left <$> commas inner
      symbol ")"
      return some (negatedIf negated e)
    else if ← key? "LIKE" then return some (negatedIf negated (.infixed .like left (← operand)))
    else
      key "BETWEEN"
      let low ← operand
      key "AND"
      return some (negatedIf negated (.between left low (← operand)))
  | _ => return none

def comparisonsFor (operand inner : Reader Expr) (query : Reader Query) : Nat → Expr → Reader Expr
  | 0, left => return left
  | n + 1, left => do
    match ← comparison operand inner query left with
    | some e => comparisonsFor operand inner query n e
    | none => return left

def comparisons (operand inner : Reader Expr) (query : Reader Query) : Reader Expr := do
  let left ← operand
  comparisonsFor operand inner query ((← get).length + 1) left

def operators (primary inner : Reader Expr) (query : Reader Query) : Reader Expr :=
  let unary := prefixes [("-",.negate), ("+",.keep), ("~",.invert)] primary
  let product := chain [("*",.times), ("/",.divided), ("%",.modulo)] (chain [("||",.concat)] unary)
  let bits := chain [("&",.bitAnd), ("|",.bitOr), ("<<",.shiftLeft), (">>",.shiftRight)]
    (chain [("+",.plus), ("-",.minus)] product)
  let order := chain [("<",.less), ("<=",.atMost), (">",.greater), (">=",.atLeast)] bits
  let equality := comparisons order inner query
  chain [("OR",.or)] (chain [("AND",.and)] (prefixes [("NOT",.no)] equality))

def choice (inner : Reader Expr) : Reader Expr := do
  let base ← if (← peekKey) == "WHEN" then pure none else some <$> inner
  let arms ← many (optional (key? "WHEN") do
    let condition ← inner
    key "THEN"
    return (condition, ← inner))
  if arms.isEmpty then fail
  let otherwise ← optional (key? "ELSE") inner
  key "END"
  return .choice base arms otherwise

def typeName : Reader String := do
  let words ← many (name? false true)
  if ← symbol? "(" then
    let _ ← many do
      match ← ahead? 0 with
      | some (.symbol ")") => return none
      | some _ => skip; return some ()
      | none => return none
    symbol ")"
  return " ".intercalate words

def arguments (inner : Reader Expr) (function : String) : Reader Expr := do
  symbol "("
  if ← symbol? "*" then
    symbol ")"
    return .callAll function
  if ← symbol? ")" then return .call function false []
  let distinct ← key? "DISTINCT"
  if !distinct then let _ ← key? "ALL"
  let given ← commas inner
  symbol ")"
  return .call function distinct given

def named (inner : Reader Expr) : Reader Expr := do
  let quoted := match ← ahead? 0 with
    | some (.quoted _ double) => double
    | _ => false
  match ← name? true false with
  | none => fail
  | some first =>
    if (← ahead? 0) == some (.symbol "(") then arguments inner first
    else if ← symbol? "." then
      let second ← name
      if ← symbol? "." then return .column (some second) (← name) false
      return .column (some first) second false
    else return .column none first quoted

def primary (inner : Reader Expr) (query : Reader Query) : Reader Expr := do
  match ← ahead? 0 with
  | some (.number v) => skip; return .constant v
  | some (.text s) => skip; return .constant (.text s)
  | some (.blob octets) => skip; return .constant (.blob octets)
  | some .parameter => skip; return .constant .null
  | some (.symbol "(") =>
    skip
    let e ← if ["SELECT", "VALUES", "WITH"].contains (← peekKey) then .scalar <$> query else inner
    symbol ")"
    return e
  | some (.word "NULL") => skip; return .constant .null
  | some (.word "CASE") => skip; choice inner
  | some (.word "EXISTS") => skip; .exist <$> parens query
  | some (.word "CAST") =>
    if (← ahead? 1) == some (.symbol "(") then
      skip
      parens do
        let e ← inner
        key "AS"
        return .cast e (← typeName)
    else named inner
  | _ => named inner

def written (start : Nat) : Reader String := do
  let text := (← read).text
  let stop := match ← get with
    | l :: _ => l.start
    | [] => text.length
  return Text.trimmed (String.ofList ((text.take stop).drop start))

def startOf : Reader Nat := return ((← get).head?.map (·.start)).getD 0

def item (inner : Reader Expr) : Reader Item := do
  if ← symbol? "*" then return .all
  match ← get with
  | l :: ⟨.symbol ".", _, _⟩ :: ⟨.symbol "*", _, _⟩ :: rest =>
    match nameOf true l with
    | some table => set rest; return .allOf table
    | none => fail
  | _ =>
    let start ← startOf
    let e ← inner
    let written ← written start
    return .value e (← label) written

def joinWord : Reader (Option (Bool × Bool)) := do
  if ← symbol? "," then return some (false,false)
  let natural ← key? "NATURAL"
  let found ← many do
    if joinWords.contains (← peekKey) && (← peekKey) != "NATURAL" then
      let word ← peekKey
      skip
      return some word
    else return none
  if natural || !found.isEmpty || (← peekKey) == "JOIN" then
    key "JOIN"
    return some (found.contains "LEFT",natural)
  return none

def sourceWith (joins : Reader (List Join)) (query : Reader Query) : Reader Source := do
  if ← symbol? "(" then
    if ["SELECT", "VALUES", "WITH"].contains (← peekKey) then
      let q ← query
      symbol ")"
      return .query q (← label)
    else
      let group ← joins
      symbol ")"
      return .group group
  let table ← tableName
  return .table table (← label)

def joinsFor (inner : Reader Expr) (query : Reader Query) : Nat → Reader (List Join)
  | 0 => fail
  | n + 1 => do
    let source := sourceWith (joinsFor inner query n) query
    let first ← source
    let rest ← many do
      match ← joinWord with
      | none => return none
      | some (outer, natural) =>
        let next ← source
        let condition ← optional (key? "ON") inner
        let shared ← optional (key? "USING") (parens (commas name))
        return some (Join.mk next outer natural condition (shared.getD []))
    return .mk first false false none [] :: rest

def core (inner : Reader Expr) (query : Reader Query) : Reader Core := do
  if ← key? "VALUES" then return .values (← commas (parens (commas inner)))
  key "SELECT"
  let distinct ← key? "DISTINCT"
  if !distinct then let _ ← key? "ALL"
  let items ← commas (item inner)
  let sources ← optional (key? "FROM") do joinsFor inner query ((← get).length + 1)
  let condition ← optional (key? "WHERE") inner
  let groups ← optional (key? "GROUP") do
    key "BY"
    commas inner
  let groupCondition ← optional (key? "HAVING") inner
  return .select distinct items (sources.getD []) condition (groups.getD []) groupCondition

def combination : Reader (Option Combination) := do
  if ← key? "UNION" then return some (if ← key? "ALL" then .unionAll else .union)
  else if ← key? "INTERSECT" then return some .intersect
  else if ← key? "EXCEPT" then return some .except
  else return none

def orderTerm (inner : Reader Expr) : Reader (Expr × Bool) := do
  let e ← inner
  if ← key? "DESC" then return (e,true)
  let _ ← key? "ASC"
  return (e,false)

def commonTable (query : Reader Query) : Reader (String × List String × Query) := do
  let table ← name
  let columns ← optional (symbol? "(") do
    let found ← commas name
    symbol ")"
    return found
  key "AS"
  if ← key? "NOT" then key "MATERIALIZED" else let _ ← key? "MATERIALIZED"
  return (table,columns.getD [], ← parens query)

def queryOf (inner : Reader Expr) (query : Reader Query) : Reader Query := do
  let tables ← optional (key? "WITH") do
    let _ ← key? "RECURSIVE"
    commas (commonTable query)
  let first ← core inner query
  let rest ← many do
    match ← combination with
    | some how => return some (how, ← core inner query)
    | none => return none
  let order ← optional (key? "ORDER") do
    key "BY"
    commas (orderTerm inner)
  let limit ← optional (key? "LIMIT") do
    let first ← inner
    if ← key? "OFFSET" then return (first,some (← inner))
    else if ← symbol? "," then return (← inner,some first)
    else return (first,none)
  return .mk (tables.getD []) first rest (order.getD []) (limit.map (·.1)) (limit.bind (·.2))

mutual
def exprFor : Nat → Reader Expr
  | 0 => fail
  | n + 1 => operators (primary (exprFor n) (queryFor n)) (exprFor n) (queryFor n)

def queryFor : Nat → Reader Query
  | 0 => fail
  | n + 1 => queryOf (exprFor n) (queryFor n)
end

def skipRest : Reader Unit := do
  let _ ← many do
    match ← ahead? 0 with
    | none => return none
    | some (.symbol ";") => return none
    | some _ => skip; return some ()

def ifExists : Reader Bool := do
  if ← key? "IF" then key "EXISTS"; return true else return false

def change (word : String) : Reader Statement := do
  skip
  if word == "DELETE" then key "FROM"
  if word == "INSERT" || word == "REPLACE" then key "INTO"
  let table ← tableName
  skipRest
  return .change table

def statement : Reader Statement := do
  match ← peekKey with
  | "DELETE" => change "DELETE"
  | "UPDATE" => change "UPDATE"
  | "INSERT" => change "INSERT"
  | "REPLACE" => change "REPLACE"
  | "DROP" =>
    skip
    key "TABLE"
    let ifThere ← ifExists
    return .drop (← tableName) ifThere
  | "CREATE" =>
    skip
    key "TABLE"
    let unlessThere ← if ← key? "IF" then key "NOT"; key "EXISTS"; pure true else pure false
    let table ← tableName
    skipRest
    return .create table unlessThere
  | key =>
    if ["SELECT", "VALUES", "WITH"].contains key then .query <$> queryFor ((← get).length + 1)
    else fail

def nextStatement : Reader (Option Statement) := do
  let _ ← many (optional (symbol? ";") (pure ()))
  if (← get).isEmpty then
    match (← read).ending with
    | .incomplete => return none
    | fault => throw fault
  let s ← statement
  if (← get).isEmpty then
    match (← read).ending with
    | .incomplete => pure ()
    | fault => throw fault
  else symbol ";"
  return some s

end Reader
end Querent.Sqlite
