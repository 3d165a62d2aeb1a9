import Querent.Sql.Selection

/-! Reading statements that change rows. Nothing of them is kept but what they do. -/
namespace Querent.Sql.Change
open Reader
variable [Grammar]

def assignment : Reader Unit := do
  if ← seesSymbol "(" then discard (tuple name) else discard name
  symbol "="
  discard expr

def assignments : Reader Unit := discard (commas assignment)

def condition : Reader Unit := discard (optional (key? "WHERE") expr)

def returning : Reader Unit := discard (optional (key? "RETURNING") (commas Selection.item))

def orderAndLimit : Reader Unit := do
  discard (Call.listed ["ORDER", "BY"] Call.orderItem)
  if ← key? "LIMIT" then
    if !(← key? "ALL") then discard expr

def onConflict : Reader Unit := do
  if ← key? "OR" then discard (keyAmong ["REPLACE", "ROLLBACK", "ABORT", "FAIL", "IGNORE"])

def onDuplicate : Reader Unit := do
  if ← key? "CONFLICT" then
    if ← keys? ["ON", "CONSTRAINT"] then discard name
    else if ← seesSymbol "(" then discard columns
    key "DO"
    if !(← key? "NOTHING") then
      keys ["UPDATE", "SET"]
      assignments
      condition
  else
    keys ["DUPLICATE", "KEY", "UPDATE"]
    assignments

def seesQuery : Reader Bool := do
  let words := ["SELECT", "WITH"]
  if words.contains (← peekKey) then return true
  return (← seesSymbol "(") && words.contains (← keyAhead 1)

def insertColumns : Reader Unit := do
  if !(← seesQuery) then
    if ← seesSymbol "(" then
      if isMySql then discard (tuple0 word) else discard columns
    if ← key? "PARTITION" then discard (tuple expr)

def insertPriority : Reader Unit := do
  if isMySql then
    discard (keyAmong? ["LOW_PRIORITY", "DELAYED", "HIGH_PRIORITY"])
    discard (key? "IGNORE")

def insertRows : Reader Unit := do
  if !(← keys? ["DEFAULT", "VALUES"]) then
    insertColumns
    if ← given isMySql (key? "SET") then assignments else discard Grammar.query

def insertNames : Reader Unit := do
  if ← given isMySql (key? "AS") then
    discard name
    if ← seesSymbol "(" then discard columns

def insert : Reader Unit := do
  onConflict
  insertPriority
  discard (key? "OVERWRITE")
  discard (key? "INTO")
  discard (key? "TABLE")
  discard name
  if ← given isPostgres (key? "AS") then discard word
  insertRows
  insertNames
  if ← key? "ON" then onDuplicate
  returning

def update : Reader Unit := do
  onConflict
  discard From.joined
  let before ← optional (key? "FROM") (commas From.joined)
  key "SET"
  assignments
  if before.isNone then discard (optional (key? "FROM") (commas From.joined))
  condition
  returning
  orderAndLimit

def delete : Reader Unit := do
  if !(← key? "FROM") then
    discard (commas name)
    key "FROM"
  discard (commas From.joined)
  discard (optional (key? "USING") (commas From.joined))
  condition
  returning
  orderAndLimit

def mergeClause : Reader Unit := do
  let absent ← key? "NOT"
  key "MATCHED"
  let bySource ← if ← given absent (key? "BY") then
      pure ((← keyAmong ["SOURCE", "TARGET"]) == "SOURCE")
    else pure false
  discard (optional (key? "AND") expr)
  key "THEN"
  match ← keyAmong ["UPDATE", "DELETE", "INSERT"] with
  | "INSERT" =>
    require (absent && !bySource)
    if ← seesSymbol "(" then discard columns
    if !(← key? "ROW") then
      key "VALUES"
      discard (commas Selection.row)
  | "UPDATE" =>
    require (!absent || bySource)
    key "SET"
    assignments
  | _ => require (!absent || bySource)

def merge : Reader Unit := do
  discard (key? "INTO")
  discard From.factor
  key "USING"
  discard From.factor
  key "ON"
  discard expr
  discard (many (optional (key? "WHEN") mergeClause))
  returning

def change? : Reader (Option String) := do
  match ← keyAmong? ["INSERT", "UPDATE", "DELETE", "MERGE"] with
  | some "INSERT" => insert; return some "INSERT"
  | some "UPDATE" => update; return some "UPDATE"
  | some "DELETE" => delete; return some "DELETE"
  | some label => merge; return some label
  | none => return none

end Querent.Sql.Change
