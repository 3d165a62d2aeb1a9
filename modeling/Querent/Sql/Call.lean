import Querent.Sql.DataType

/-! Reading calls of functions: their arguments, the clauses among and behind these, and windows. Clauses
of other engines are read where the dialects let them through. -/
namespace Querent.Sql.Call
open Reader
variable [Grammar]

def orderItem : Reader Expr := do
  let e ← expr
  discard (keyAmong? ["ASC", "DESC"])
  if !(← keys? ["NULLS", "FIRST"]) then discard (keys? ["NULLS", "LAST"])
  return e

def orderItems : Reader (List Expr) := commas orderItem

def listed (clause : List String) (item : Reader Expr) : Reader (List Expr) := do
  if ← keys? clause then commas item else return []

def starAfter : Name → List Lexeme → Option (Option (Name × List Lexeme))
  | table, ⟨.symbol ".",_⟩ :: ⟨.symbol "*",_⟩ :: rest => some (some (table,rest))
  | table, ⟨.symbol ".",_⟩ :: ⟨.word w,_⟩ :: rest => starAfter (table ++ [w]) rest
  | table, ⟨.symbol ".",_⟩ :: ⟨.constant .plain s,_⟩ :: rest =>
    starAfter (table ++ [⟨s,some '\'',""⟩]) rest
  | table, ⟨.symbol ".",_⟩ :: ⟨.parameter s,_⟩ :: rest => starAfter (table ++ [⟨s,none,""⟩]) rest
  | _, ⟨.symbol ".",_⟩ :: _ => none
  | _, _ => some none

def starOrExpr : Reader Expr := fun ts =>
  let qualified (w : Word) (rest : List Lexeme) := match starAfter [w] rest with
    | some (some (table, rest)) => .ok (.star table,rest)
    | some none => expr ts
    | none => .error .mismatch
  match ts with
  | ⟨.symbol "*",_⟩ :: rest => .ok (.star [],rest)
  | ⟨.word w,_⟩ :: rest => qualified w rest
  | ⟨.constant .plain s,_⟩ :: rest => qualified ⟨s,some '\'',""⟩ rest
  | _ => expr ts

def argumentSign : Reader Unit := do
  if ← key? "VALUE" then return
  match ← next with
  | .symbol s => require (s == "=>" || (isPostgres && (s == ":" || s == ":=")))
  | _ => fail

def argument : Reader Expr := do
  let named : Reader Expr := do
    let label ← if isPostgres then expr else pure (.name [← word])
    argumentSign
    return .form "=>" [label,← starOrExpr]
  match ← attempt named with
  | some e => return e
  | none => starOrExpr

def nullClause : Reader Unit := do
  if !(← keys? ["NULL", "ON", "NULL"]) then discard (keys? ["ABSENT", "ON", "NULL"])

def returningClause : Reader Unit := discard (optional (key? "RETURNING") DataType.any)

def filler : Reader (List Expr) := do
  match ← peek with
  | some (.constant kind _) =>
    require ([Quoted.plain, .escaped, .unicode, .national, .hex].contains kind)
    return [← expr]
  | _ =>
    require (["WITH", "WITHOUT"].contains (← peekKey))
    return []

def overflowClause : Reader (List Expr) := do
  if !(← keys? ["ON", "OVERFLOW"]) then return []
  if ← key? "ERROR" then return []
  key "TRUNCATE"
  let filler ← filler
  discard (keyAmong ["WITH", "WITHOUT"])
  key "COUNT"
  return filler

def constantToken : Reader Unit := do
  match ← next with
  | .number _ => pure ()
  | .constant .. => pure ()
  | .parameter _ => pure ()
  | _ => fail

def arguments : Reader (List Expr) := do
  nullClause
  returningClause
  if ← symbol? ")" then return []
  if ← key? "ALL" then require !(← seesKey "DISTINCT") else discard (key? "DISTINCT")
  let values ← commas argument
  let order ← listed ["ORDER", "BY"] orderItem
  let limit ← optional (key? "LIMIT") expr
  if isMySql then discard (optional (key? "SEPARATOR") constantToken)
  let overflow ← overflowClause
  nullClause
  returningClause
  symbol ")"
  return values ++ order ++ limit.toList ++ overflow

def nullTreatment : Reader Unit := do
  discard (optional (return (← keyAmong? ["RESPECT", "IGNORE"]).isSome) (key "NULLS"))

def bound : Reader (List Expr) := do
  if ← keys? ["CURRENT", "ROW"] then return []
  let distance ← if ← key? "UNBOUNDED" then pure [] else pure [← expr]
  discard (keyAmong ["PRECEDING", "FOLLOWING"])
  return distance

def frame : Reader (List Expr) := do
  discard (keyAmong ["ROWS", "RANGE", "GROUPS"])
  if ← key? "BETWEEN" then
    let first ← bound
    key "AND"
    return first ++ (← bound)
  else bound

def window : Reader (List Expr) := do
  match ← peek with
  | some (.word w) =>
    if ! ["PARTITION", "ORDER", "ROWS", "RANGE", "GROUPS"].contains w.key then skip
  | _ => pure ()
  let parts ← listed ["PARTITION", "BY"] expr
  let order ← listed ["ORDER", "BY"] orderItem
  if ← symbol? ")" then return parts ++ order
  let edges ← frame
  symbol ")"
  return parts ++ order ++ edges

def call (function : Name) : Reader Expr := do
  symbol "("
  let values ← arguments
  let group ← if ← keys? ["WITHIN", "GROUP"] then
      parens do keys ["ORDER", "BY"]; orderItems
    else pure []
  let filter ← if ← given isPostgres (key? "FILTER") then
      parens do key "WHERE"; return [← expr]
    else pure []
  nullTreatment
  let frame ← if ← key? "OVER" then
      if ← symbol? "(" then window
      else
        discard word
        pure []
    else pure []
  return .call function (values ++ group ++ filter ++ frame)

end Querent.Sql.Call
