import Querent.Sql.Expression

/-! Reading what rows are taken from: tables, functions and queries with their aliases, joins, and
sources in parentheses. Pivots, samples, joins by time and tables made from documents are forms of other
engines that the dialects let through. -/
namespace Querent.Sql.From
open Reader

def columnReserved : List String :=
  ["WITH", "EXPLAIN", "ANALYZE", "SELECT", "WHERE", "GROUP", "SORT", "HAVING", "ORDER", "TOP",
    "LATERAL", "VIEW", "LIMIT", "OFFSET", "FETCH", "UNION", "EXCEPT", "EXCLUDE", "INTERSECT", "MINUS",
    "CLUSTER", "DISTRIBUTE", "RETURNING", "VALUES", "FROM", "INTO", "END"]

def tableReserved : List String :=
  ["WITH", "EXPLAIN", "ANALYZE", "SELECT", "WHERE", "GROUP", "SORT", "HAVING", "ORDER", "PIVOT",
    "UNPIVOT", "TOP", "LATERAL", "VIEW", "LIMIT", "OFFSET", "FETCH", "UNION", "EXCEPT", "INTERSECT",
    "MINUS", "ON", "JOIN", "INNER", "CROSS", "FULL", "LEFT", "RIGHT", "NATURAL", "USING", "CLUSTER",
    "DISTRIBUTE", "GLOBAL", "ANTI", "SEMI", "RETURNING", "OUTPUT", "ASOF", "MATCH_CONDITION",
    "OUTER", "SET", "QUALIFY", "WINDOW", "END", "FOR", "PARTITION", "PREWHERE", "SETTINGS", "FORMAT",
    "START", "CONNECT", "MATCH_RECOGNIZE", "SAMPLE", "TABLESAMPLE", "FROM", "OPEN", "VALUES", "INTO"]

def hintReserved : List String := ["USE", "IGNORE", "FORCE", "STRAIGHT_JOIN"]

def alias? (reserved : List String) : Reader (Option Word) := do
  let explicit ← key? "AS"
  match ← peek with
  | some (.word w) =>
    if explicit || !reserved.contains w.key then skip; return some w else return none
  | some (.constant .plain s) => skip; return some ⟨s,some '\'',""⟩
  | some (.constant .double s) => skip; return some ⟨s,some '"',""⟩
  | _ => require !explicit; return none

variable [Grammar]

def columnDefinitions : Reader Unit := do
  if ← symbol? "(" then
    discard (commas do
      discard word
      discard (attempt DataType.any))
    symbol ")"

def tableAlias : Reader Unit := do
  let reserved := if isMySql then tableReserved ++ hintReserved else tableReserved
  if (← alias? reserved).isSome then columnDefinitions

def anyWord : Reader Unit := do
  match ← next with
  | .word _ => pure ()
  | _ => fail

def amount : Reader (List Expr) := do
  let quantity ← attempt expr
  if quantity.isNone then anyWord
  discard (keyAmong? ["PERCENT", "ROWS"])
  return quantity.toList

def bucket : Reader (List Expr) := do
  Expression.number
  keys ["OUT", "OF"]
  Expression.number
  return (← optional (key? "ON") expr).toList

def sample : Reader (List Expr) := do
  if (← keyAmong? ["TABLESAMPLE", "SAMPLE"]).isNone then return []
  discard (keyAmong? ["BERNOULLI", "ROW", "SYSTEM", "BLOCK"])
  let quantity ← if ← symbol? "(" then
      let parts ← if ← key? "BUCKET" then bucket else amount
      symbol ")"
      pure parts
    else amount
  if (← keyAmong? ["REPEATABLE", "SEED"]).isSome then parens Expression.number
  let start ← optional (key? "OFFSET") expr
  return quantity ++ start.toList

def labelled : Reader Expr := do
  let e ← expr
  if ← key? "AS" then discard word
  return e

def aggregate : Reader Expr := do
  match ← next with
  | .word w =>
    let e ← Call.call [w]
    let label ← alias? ("FOR" :: columnReserved)
    require (label.all (·.key != "FOR"))
    return e
  | _ => fail

def pivotValues : Reader (List Expr) := do
  if ← key? "ANY" then Call.listed ["ORDER", "BY"] Call.orderItem
  else if ["SELECT", "WITH"].contains (← peekKey) then return [.query (← Grammar.query)]
  else commas labelled

def pivot : Reader (List Expr) := parens do
  let calls ← commas aggregate
  key "FOR"
  let column := Expression.above .between
  let columns ← if ← seesSymbol "(" then tuple column else pure [← column]
  key "IN"
  let values ← parens pivotValues
  let missing ← optional (keys? ["DEFAULT", "ON", "NULL"]) (parens expr)
  return calls ++ columns ++ values ++ missing.toList

def unpivot : Reader (List Expr) := do
  if (← keyAmong? ["INCLUDE", "EXCLUDE"]).isSome then key "NULLS"
  parens do
    let value ← expr
    key "FOR"
    discard word
    key "IN"
    return value :: (← tuple labelled)

def pivotsFor : Nat → Source → Reader Source
  | 0, source => return source
  | n + 1, source => do
    match ← keyAmong? ["PIVOT", "UNPIVOT"] with
    | none => return source
    | some kind =>
      let parts ← if kind == "PIVOT" then pivot else unpivot
      tableAlias
      pivotsFor n (.pivot source parts)

def pivots (source : Source) : Reader Source := do pivotsFor ((← get).length + 1) source

def indexHint : Reader Unit := do
  discard (keyAmong ["USE", "IGNORE", "FORCE"])
  discard (keyAmong ["INDEX", "KEY"])
  if ← key? "FOR" then
    if !(← key? "JOIN") then
      discard (keyAmong ["ORDER", "GROUP"])
      key "BY"
  discard (tuple0 word)

def tableHints : Reader (List Expr) := do
  if (← seesKey "WITH") && (← ahead? 1) == some (.symbol "(") then
    skip
    tuple expr
  else return []

def derived : Reader Source := do
  let q ← Grammar.query
  symbol ")"
  tableAlias
  return .query q (← sample)

def functionArguments : Reader (List Expr) := tuple0 Call.argument

def lateral : Reader Source := do
  if ← symbol? "(" then derived
  else
    let function ← name
    let args ← functionArguments
    tableAlias
    return .table function args

def unnest : Reader Source := do
  let arrays ← tuple expr
  discard (keys? ["WITH", "ORDINALITY"])
  tableAlias
  if ← keys? ["WITH", "OFFSET"] then discard (alias? columnReserved)
  return .table [] arrays

def documentColumnFor : Nat → Reader Unit
  | 0 => fail
  | n + 1 => do
    if ← key? "NESTED" then
      discard (key? "PATH")
      discard Expression.constant
      key "COLUMNS"
      discard (tuple (documentColumnFor n))
    else
      discard word
      if !(← keys? ["FOR", "ORDINALITY"]) then
        discard DataType.any
        discard (key? "EXISTS")
        key "PATH"
        discard Expression.constant
        discard (many (attempt do
          match ← keyAmong ["NULL", "ERROR", "DEFAULT"] with
          | "DEFAULT" => discard Expression.constant
          | _ => pure ()
          key "ON"
          discard (keyAmong ["EMPTY", "ERROR"])))

def document : Reader Source := do
  symbol "("
  let e ← expr
  symbol ","
  discard Expression.constant
  key "COLUMNS"
  discard (tuple (documentColumnFor ((← get).length)))
  symbol ")"
  tableAlias
  return .table [] [e]

def openJson : Reader Source := do
  let e ← parens do
    let e ← expr
    discard (optional (symbol? ",") Expression.constant)
    return e
  if ← key? "WITH" then
    discard (tuple do
      discard word
      discard DataType.any
      discard (optional (return (← peek) matches some (.constant .plain _)) skip)
      if ← key? "AS" then key "JSON")
  tableAlias
  return .table [] [e]

def xmlColumn : Reader (List Expr) := do
  discard word
  if ← key? "FOR" then
    key "ORDINALITY"
    return []
  discard DataType.any
  let path ← optional (key? "PATH") expr
  let missing ← optional (key? "DEFAULT") expr
  if !(← keys? ["NOT", "NULL"]) then discard (key? "NULL")
  return path.toList ++ missing.toList

def xmlTable : Reader Source := parens do
  let spaces ← if ← key? "XMLNAMESPACES" then
      let spaces ← tuple do
        let e ← expr
        key "AS"
        discard word
        return e
      symbol ","
      pure spaces
    else pure []
  let rows ← expr
  let passed ← if ← key? "PASSING" then
      commas do
        if ← key? "BY" then discard (key? "VALUE")
        labelled
    else pure []
  key "COLUMNS"
  let columns ← commas xmlColumn
  return .table [] (spaces ++ rows :: passed ++ columns.flatten)

def table : Reader Source := do
  let table ← name
  if isMySql then discard (optional (key? "PARTITION") columns)
  let args ← if ← seesSymbol "(" then functionArguments else pure []
  discard (keys? ["WITH", "ORDINALITY"])
  tableAlias
  if isMySql then discard (many (attempt indexHint))
  let hints ← tableHints
  let quantity ← sample
  return .table table (args ++ hints ++ quantity)

def condition : Reader (List Expr) := do
  if ← key? "ON" then return [← expr]
  else if ← key? "USING" then
    discard (tuple name)
    return []
  else return []

def joint? : Reader (Option (String × Bool)) := do
  discard (key? "GLOBAL")
  if ← key? "CROSS" then
    match ← keyAmong ["JOIN", "APPLY"] with
    | "JOIN" => return some ("CROSS JOIN",isMySql)
    | _ => return some ("CROSS APPLY",false)
  if ← key? "OUTER" then
    key "APPLY"
    return some ("OUTER APPLY",false)
  if ← key? "ASOF" then
    key "JOIN"
    return some ("ASOF JOIN",true)
  let natural ← key? "NATURAL"
  let next ← peekKey
  match next with
  | "JOIN" => skip; return some ("JOIN",!natural)
  | "INNER" => skip; key "JOIN"; return some ("JOIN",!natural)
  | "FULL" =>
    skip
    discard (key? "OUTER")
    key "JOIN"
    return some ("FULL JOIN",!natural)
  | "ANTI" => skip; key "JOIN"; return some ("ANTI JOIN",!natural)
  | "SEMI" => skip; key "JOIN"; return some ("SEMI JOIN",!natural)
  | "STRAIGHT_JOIN" => skip; return some ("STRAIGHT_JOIN",!natural)
  | _ =>
    if next == "LEFT" || next == "RIGHT" then
      skip
      if (← keyAmong ["OUTER", "SEMI", "ANTI", "JOIN"]) != "JOIN" then key "JOIN"
      return some (next ++ " JOIN",!natural)
    else
      require !natural
      return none

def matching : Reader (List Expr) := do
  key "MATCH_CONDITION"
  return [← parens expr]

def isJoined : Source → Bool
  | .join .. => true
  | .group _ => true
  | _ => false

def joinsFor (factor : Reader Source) : Nat → Source → Reader Source
  | 0, left => return left
  | n + 1, left => do
    match ← joint? with
    | none => return left
    | some (label, conditional) =>
      let right ← factor
      let times ← if label == "ASOF JOIN" then matching else pure []
      let on ← if conditional then condition else pure []
      joinsFor factor n (.join left label right (times ++ on))

def opens (key : String) : Reader Bool :=
  return (← seesKey key) && (← ahead? 1) == some (.symbol "(")

def factorFor : Nat → Reader Source
  | 0 => fail
  | n + 1 => do
    if ← key? "LATERAL" then lateral
    else if ← key? "TABLE" then
      let e ← parens expr
      tableAlias
      return .table [] [e]
    else if ← symbol? "(" then
      match ← attempt derived with
      | some source => pivots source
      | none =>
        let inner ← factorFor n
        let joined ← joinsFor (factorFor n) ((← get).length) inner
        require (isJoined joined)
        symbol ")"
        tableAlias
        return .group joined
    else if isPostgres && (← seesKey "UNNEST") then skip; unnest
    else if ← opens "JSON_TABLE" then skip; document
    else if ← opens "OPENJSON" then skip; openJson
    else if ← opens "XMLTABLE" then
      skip
      let source ← xmlTable
      tableAlias
      return source
    else pivots (← table)

def factor : Reader Source := do factorFor ((← get).length + 1)

def joined : Reader Source := do
  joinsFor factor ((← get).length + 1) (← factor)

end Querent.Sql.From
