import Querent.Sql.From

/-! Reading queries: named queries, selections, values, set operations, order, limits and locks. -/
namespace Querent.Sql.Selection
open Reader
variable [Grammar]

def distinction : Reader (List Expr) := do
  let all ← key? "ALL"
  if ← key? "DISTINCT" then
    require !all
    if ← key? "ON" then tuple0 expr else return []
  else return []

def top : Reader (List Expr) := do
  if !(← key? "TOP") then return []
  let quantity ← if ← seesSymbol "(" then pure [← parens expr]
    else
      match ← next with
      | .number _ => pure []
      | _ => fail
  discard (key? "PERCENT")
  discard (keys? ["WITH", "TIES"])
  return quantity

def isBareFrom : Expr → Bool
  | .name [w] => w.key == "FROM"
  | _ => false

def isStar : Expr → Bool
  | .star _ => true
  | _ => false

def item : Reader Expr := do
  let e ← Call.starOrExpr
  require !(isBareFrom e)
  if !(isStar e) then discard (From.alias? From.columnReserved)
  return e

def target : Reader Name := do
  discard (keyAmong? ["TEMPORARY", "TEMP"])
  discard (key? "UNLOGGED")
  discard (key? "TABLE")
  name

def lateralView : Reader Expr := do
  discard (key? "OUTER")
  let e ← expr
  discard name
  discard (commas (From.alias? ["WHERE", "GROUP", "CLUSTER", "HAVING", "LATERAL"]))
  return e

def groupTuple (alone : Bool) : Reader Expr := do
  if ← seesSymbol "(" then return .form "ROW" (← tuple0 expr)
  require alone
  expr

def groupItem : Reader Expr := do
  if !isPostgres then return ← expr
  if ← keys? ["GROUPING", "SETS"] then return .form "GROUPING SETS" (← tuple (groupTuple false))
  if ← key? "CUBE" then return .form "CUBE" (← tuple (groupTuple true))
  if ← key? "ROLLUP" then return .form "ROLLUP" (← tuple (groupTuple true))
  if (← seesSymbol "(") && (← ahead? 1) == some (.symbol ")") then
    skip; skip
    return .form "ROW" []
  expr

def groups : Reader (List Expr) := do
  if !(← keys? ["GROUP", "BY"]) then return []
  let items ← if ← key? "ALL" then pure [] else commas groupItem
  let sets ← if ← keys? ["GROUPING", "SETS"] then tuple (groupTuple true) else pure []
  return items ++ sets

def namedWindow : Reader (List Expr) := do
  discard word
  key "AS"
  if ← symbol? "(" then Call.window
  else
    discard word
    return []

def windows : Reader (List Expr) := do
  let named : Reader (List (List Expr)) := commas namedWindow
  if ← key? "WINDOW" then
    let windows ← named
    let condition ← optional (key? "QUALIFY") expr
    return windows.flatten ++ condition.toList
  else if ← key? "QUALIFY" then
    let condition ← expr
    let windows ← if ← key? "WINDOW" then named else pure []
    return condition :: windows.flatten
  else return []

def select : Reader Body := do
  key "SELECT"
  let distinction ← distinction
  let top ← top
  let items ← if isPostgres && (← seesKey "FROM") then pure [] else commas item
  let into ← optional (key? "INTO") target
  let sources ← if ← key? "FROM" then commas From.joined else pure []
  let views ← many (optional (keys? ["LATERAL", "VIEW"]) lateralView)
  let condition ← optional (key? "WHERE") expr
  let groups ← groups
  let clusters ← Call.listed ["CLUSTER", "BY"] expr
  let parts ← Call.listed ["DISTRIBUTE", "BY"] expr
  let sorts ← Call.listed ["SORT", "BY"] Call.orderItem
  let having ← optional (key? "HAVING") expr
  let windows ← windows
  return .select items into sources (distinction ++ top ++ views ++ condition.toList ++ groups ++
    clusters ++ parts ++ sorts ++ having.toList ++ windows)

def row : Reader Expr := do
  discard (key? "ROW")
  if isMySql then return .form "ROW" (← tuple0 expr)
  return .form "ROW" (← tuple expr)

/-- A table in the place of a query. It is read as three tokens, of which the second may be a period
between the parts of its name. -/
def wholeTable : Reader Body := do
  let first ← next
  let second ← peek
  skip
  let third ← peek
  skip
  match first, second, third with
  | .word schema, some (.symbol "."), some (.word table) => return .table [schema,table]
  | .word _, some (.symbol "."), _ => fail
  | .word table, _, _ => return .table [table]
  | _, _, _ => fail

def setOperator? : Reader (Option (String × Nat)) := do
  match ← peekKey with
  | "UNION" => return some ("UNION",10)
  | "EXCEPT" => return some ("EXCEPT",10)
  | "MINUS" => return some ("MINUS",10)
  | "INTERSECT" => return some ("INTERSECT",20)
  | _ => return none

def setQuantifier : Reader Unit := do
  if !(← keys? ["DISTINCT", "BY", "NAME"]) then
    if !(← keys? ["BY", "NAME"]) then
      if ← key? "ALL" then discard (keys? ["BY", "NAME"])
      else discard (key? "DISTINCT")

def simpleBody : Reader Body := do
  if ← seesKey "SELECT" then select
  else if ← symbol? "(" then
    let q ← Grammar.query
    symbol ")"
    return .query q
  else if (← keyAmong? ["VALUES", "VALUE"]).isSome then return .values (← commas row)
  else if ← key? "TABLE" then wholeTable
  else fail

def combinedFor : Nat → Nat → Body → Reader Body
  | 0, _, left => return left
  | n + 1, tightness, left => do
    match ← setOperator? with
    | none => return left
    | some (operator, binding) =>
      if binding ≤ tightness then return left
      skip
      setQuantifier
      let right ← combinedFor n binding (← simpleBody)
      combinedFor n tightness (.combine operator left right)

def body : Reader Body := do combinedFor ((← get).length + 1) 0 (← simpleBody)

def named : Reader Query := do
  discard word
  if !(← key? "AS") then
    From.columnDefinitions
    key "AS"
  if isPostgres then
    if !(← key? "MATERIALIZED") then discard (keys? ["NOT", "MATERIALIZED"])
  let q ← parens Grammar.query
  discard (optional (key? "FROM") word)
  return q

def offset : Reader Expr := do
  let e ← expr
  discard (keyAmong? ["ROW", "ROWS"])
  return e

def limits : Reader (List Expr) := do
  let before ← optional (key? "OFFSET") offset
  if !(← key? "LIMIT") then return before.toList
  let limit ← if ← key? "ALL" then pure none else pure (some (← expr))
  if ← given (isMySql && before.isNone && limit.isSome) (symbol? ",") then
    return limit.toList ++ [← expr]
  let after ← if before.isNone then optional (key? "OFFSET") offset else pure none
  return before.toList ++ limit.toList ++ after.toList

def fetch : Reader (List Expr) := do
  if !(← key? "FETCH") then return []
  discard (keyAmong? ["FIRST", "NEXT"])
  let quantity ← if ["ROW", "ROWS"].contains (← peekKey) then pure []
    else
      let e ← Expression.constant
      discard (key? "PERCENT")
      pure [e]
  discard (keyAmong? ["ROW", "ROWS"])
  if !(← key? "ONLY") then discard (keys? ["WITH", "TIES"])
  return quantity

def documentForm : Reader Bool := do
  match ← keyAmong? ["XML", "JSON", "BROWSE"] with
  | none => return false
  | some "BROWSE" => return true
  | some _ =>
    discard (keyAmong ["RAW", "AUTO", "EXPLICIT", "PATH"])
    discard (optional (seesSymbol "(") (parens Expression.constant))
    return true

def locksFor : Nat → Reader (List String)
  | 0 => return []
  | n + 1 => do
    if !(← key? "FOR") then return []
    if ← documentForm then return []
    let kind ← keyAmong ["UPDATE", "SHARE"]
    discard (optional (key? "OF") name)
    if !(← key? "NOWAIT") then discard (keys? ["SKIP", "LOCKED"])
    return kind :: (← locksFor n)

def locks : Reader (List String) := do locksFor ((← get).length + 1)

def query (change? : Reader (Option String)) : Reader Query := do
  let ctes ← if ← key? "WITH" then
      discard (key? "RECURSIVE")
      commas named
    else pure []
  match ← change? with
  | some label => return .mk ctes (.change label) [] []
  | none =>
    let body ← body
    let order ← Call.listed ["ORDER", "BY"] Call.orderItem
    let limits ← limits
    let fetch ← fetch
    return .mk ctes body (order ++ limits ++ fetch) (← locks)

end Querent.Sql.Selection
