import Querent.Sql.Call
import Querent.Sql.Level

/-! Reading expressions: what may begin one, the steps into it, and operators by how tightly they
bind. -/
namespace Querent.Sql.Expression
open Reader
variable [Grammar]

def above (level : Level) : Reader Expr := Grammar.tighter (Grammar.dialect.tightness level)

def isConstant : Token → Bool
  | .number _ => true
  | .constant .. => true
  | .parameter _ => true
  | _ => false

def constant : Reader Expr := do
  match ← next with
  | .word w =>
    require (["TRUE", "FALSE", "NULL"].contains w.key || w.quote.isSome)
    return .constant (.word w)
  | .symbol s =>
    require (s == ":" || s == "@")
    match (← get).head? with
    | some ⟨.word w, false⟩ => skip; return .constant (.parameter (s ++ w.text))
    | some ⟨.number n, false⟩ => skip; return .constant (.parameter (s ++ n))
    | _ => fail
  | .constant .plain s =>
    if isMySql then
      discard (many (optional (return (← peek) matches some (.constant .plain _)) skip))
    return .constant (.constant .plain s)
  | .constant .double s =>
    if isMySql then
      discard (many (optional (return (← peek) matches some (.constant .double _)) skip))
    return .constant (.constant .double s)
  | t =>
    require (isConstant t)
    return .constant t

def number : Reader Unit := do
  match ← constant with
  | .constant (.number _) => pure ()
  | .constant (.parameter _) => pure ()
  | _ => fail

def timeField : Reader Unit := discard (keyAmong DataType.timeFields)

def intervalUnit : Reader Unit := do
  let key ← peekKey
  if DataType.timeFields.contains key then
    skip
    if key == "SECOND" || key == "SECONDS" then DataType.precisionAndScale
    else
      DataType.precision
      if ← key? "TO" then
        timeField
        DataType.precision
  else require isPostgres

def interval (value : Reader Expr) : Reader Expr := do
  let value ← if isMySql then expr else value
  intervalUnit
  return .form "INTERVAL" [value]

def typed (value : Reader Expr) : Reader Expr := do
  match ← DataType.any with
  | .interval => interval value
  | .custom => fail
  | .binary =>
    if isMySql then return .form "CAST" [← expr] else return .form "CAST" [← constant]
  | .builtIn => return .form "CAST" [← constant]

def existence : Reader Expr := parens do return .form "EXISTS" [.query (← Grammar.query)]

def choice : Reader Expr := do
  let operand ← if ← seesKey "WHEN" then pure [] else pure [← expr]
  let branch : Reader (List Expr) := do
    let condition ← expr
    key "THEN"
    return [condition,← expr]
  key "WHEN"
  let branches ← separated (key? "WHEN") branch
  let otherwise ← optional (key? "ELSE") expr
  key "END"
  return .form "CASE" (operand ++ branches.flatten ++ otherwise.toList)

def convert : Reader Expr := parens do
  let e ← expr
  if ← key? "USING" then discard name
  else
    symbol ","
    discard DataType.any
    discard (optional (keys? ["CHARACTER", "SET"]) name)
  return .form "CONVERT" [e]

def cast : Reader Expr := parens do
  let e ← expr
  key "AS"
  discard DataType.any
  discard (key? "ARRAY")
  let format ← optional (key? "FORMAT") constant
  return .form "CAST" (e :: format.toList)

def extract : Reader Expr := parens do
  if isPostgres then discard word else timeField
  key "FROM"
  return .form "EXTRACT" [← expr]

def rounding (label : String) : Reader Expr := parens do
  let e ← expr
  if ← key? "TO" then timeField; return .form label [e]
  let places ← optional (symbol? ",") constant
  return .form label (e :: places.toList)

def position (function : Word) : Reader Expr := do
  let within := parens do
    let e ← above .between
    key "IN"
    return .form "POSITION" [e,← expr]
  match ← attempt within with
  | some e => return e
  | none => Call.call [function]

def substring : Reader Expr := parens do
  let e ← expr
  let start ← optional (do if ← symbol? "," then return true else key? "FROM") expr
  let length ← optional (do if ← symbol? "," then return true else key? "FOR") expr
  return .form "SUBSTRING" (e :: start.toList ++ length.toList)

def overlay : Reader Expr := parens do
  let e ← expr
  key "PLACING"
  let part ← expr
  key "FROM"
  let start ← expr
  let length ← optional (key? "FOR") expr
  return .form "OVERLAY" (e :: part :: start :: length.toList)

def trim : Reader Expr := parens do
  discard (keyAmong? ["BOTH", "LEADING", "TRAILING"])
  let e ← expr
  let whole ← optional (key? "FROM") expr
  return .form "TRIM" (e :: whole.toList)

def elements : Reader Expr := do
  if ← symbol? "]" then return .form "ARRAY" []
  let items ← commas expr
  symbol "]"
  return .form "ARRAY" items

def negation : Reader Expr := do
  if ← key? "EXISTS" then return .form "NOT" [← existence]
  return .form "NOT" [← above .not]

def search : Reader Expr := do
  let columns ← tuple (return Expr.name (← name))
  key "AGAINST"
  parens do
    let value ← constant
    if ← keys? ["IN", "NATURAL", "LANGUAGE", "MODE"] then
      discard (keys? ["WITH", "QUERY", "EXPANSION"])
    else if !(← keys? ["IN", "BOOLEAN", "MODE"]) then
      discard (keys? ["WITH", "QUERY", "EXPANSION"])
    return .form "MATCH" (value :: columns)

def moment (function : Word) : Reader Expr := do
  if ← symbol? "(" then return .call [function] (← Call.arguments) else return .call [function] []

def reserved (value : Reader Expr) (w : Word) : Reader (Option Expr) := do
  let given (r : Reader Expr) : Reader (Option Expr) := return some (← r)
  match w.key with
  | "TRUE" => return some (.constant (.word w))
  | "FALSE" => return some (.constant (.word w))
  | "NULL" => return some (.constant (.word w))
  | "CURRENT_TIMESTAMP" => given (moment w)
  | "CURRENT_TIME" => given (moment w)
  | "CURRENT_DATE" => given (moment w)
  | "LOCALTIME" => given (moment w)
  | "LOCALTIMESTAMP" => given (moment w)
  | "CASE" => given choice
  | "CONVERT" => given convert
  | "CAST" => given cast
  | "TRY_CAST" => given cast
  | "SAFE_CAST" => given cast
  | "EXISTS" => given existence
  | "EXTRACT" => given extract
  | "CEIL" => given (rounding "CEIL")
  | "FLOOR" => given (rounding "FLOOR")
  | "POSITION" => if ← seesSymbol "(" then given (position w) else return none
  | "SUBSTR" => given substring
  | "SUBSTRING" => given substring
  | "OVERLAY" => given overlay
  | "TRIM" => given trim
  | "INTERVAL" => given (interval value)
  | "ARRAY" =>
    if ← symbol? "[" then given elements
    else if ← seesSymbol "(" then
      given (parens do return .form "ARRAY" [.query (← Grammar.query)])
    else return none
  | "NOT" => given negation
  | "MATCH" => if isMySql then given search else return none
  | other =>
    if isPostgres && ["CURRENT_CATALOG", "CURRENT_USER", "SESSION_USER", "USER"].contains other then
      return some (.call [w] [])
    else if isPostgres && DataType.shapes.contains other then
      given do return .form "CAST" [← constant]
    else return none

def startsUnderscore (w : Word) : Bool := w.text.toList.head? == some '_'

def named (w : Word) : Reader Expr := do
  match ← peek with
  | some (.symbol "(") => Call.call [w]
  | some (.constant kind s) =>
    if startsUnderscore w && [Quoted.plain, .double, .hex].contains kind then
      skip
      return .form w.text [.constant (.constant kind s)]
    else return .name [w]
  | _ => return .name [w]

def isNoName (w : Word) : Bool :=
  ["EXISTS", "STRUCT", "TRIM"].contains w.key || (w.key == "INTERVAL" && isMySql)

def ofWord (value : Reader Expr) (w : Word) : Reader Expr := fun ts =>
  match reserved value w ts with
  | .ok (some e, rest) => .ok (e,rest)
  | .ok (none, _) => named w ts
  | .error stop =>
    if isNoName w then .error stop
    else match named w ts with
      | .ok r => .ok r
      | .error _ => .error stop

def grouped : Reader Expr := do
  if ["SELECT", "WITH"].contains (← peekKey) then
    let q ← Grammar.query
    symbol ")"
    return .query q
  let items ← commas expr
  symbol ")"
  match items with
  | [e] => return e
  | items => return .form "ROW" items

def braced : Reader Expr := do
  let dated : Reader Expr := do
    let w ← word
    require (["D", "T", "TS"].contains w.key)
    constant
  let called : Reader Expr := do
    key "FN"
    Call.call (← name)
  let e ← match ← attempt dated with
    | some e => pure e
    | none => called
  symbol "\x7d"
  return e

def ofSymbol (s : String) : Reader Expr := do
  if s == "-" || s == "+" then return .form s [← above .product]
  else if s == "~" then return .form s [← above .sum]
  else if s == "(" then grouped
  else if s == "[" then elements
  else if s == "\x7b" then braced
  else if isPostgres && ["!!", "|/", "||/", "@", "#", "@-@", "@@", "?-", "?|"].contains s then
    return .form s [← above .sum]
  else fail

def firstFor : Nat → Reader Expr
  | 0 => fail
  | n + 1 => do
    let value := firstFor n
    let typed ← if ← DataType.startsBuiltIn then attempt (typed value) else pure none
    match typed with
    | some e => return e
    | none =>
      match ← peek with
      | some (.word w) => skip; ofWord value w
      | some (.symbol ":") => constant
      | some (.symbol "@") => if isPostgres then skip; ofSymbol "@" else constant
      | some (.symbol s) => skip; ofSymbol s
      | some t => if isConstant t then constant else fail
      | none => fail

def first : Reader Expr := do firstFor ((← get).length + 1)

def subscript : Reader (List Expr) := do
  let lower ← if ← seesSymbol ":" then pure [] else pure [← expr]
  if ← symbol? "]" then
    require !lower.isEmpty
    return lower
  symbol ":"
  if ← symbol? "]" then return lower
  let upper ← expr
  if ← symbol? "]" then return lower ++ [upper]
  symbol ":"
  if ← symbol? "]" then return lower ++ [upper]
  let stride ← expr
  symbol "]"
  return lower ++ [upper,stride]

def isStep : Expr → Bool
  | .name _ => true
  | .constant _ => true
  | .call .. => true
  | .path .. => true
  | _ => false

def names? : List Expr → Option Name
  | [] => some []
  | .name parts :: rest => (names? rest).map (parts ++ ·)
  | _ :: _ => none

inductive Step where
  | part (e : Expr)
  | index (bounds : List Expr)
  | star

def Step.part? : Step → Option Expr
  | .part e => some e
  | _ => none

def Step.exprs : Step → List Expr
  | .part e => [e]
  | .index bounds => bounds
  | .star => []

def Step.isStar : Step → Bool
  | .star => true
  | _ => false

def step? : Reader (Option Step) := do
  if ← seesSymbol "." then
    if (← ahead? 1) == some (.symbol "*") then
      if isPostgres then skip; skip; return some .star else return none
    skip
    match ← peek with
    | some (.constant .plain s) => skip; return some (.part (.name [⟨s,some '\'',""⟩]))
    | some (.parameter s) => skip; return some (.part (.name [⟨s,none,""⟩]))
    | _ =>
      let valid : Reader Expr := do
        let e ← first
        require (isStep e)
        return e
      match ← attempt valid with
      | some e => return some (.part e)
      | none => return some (.part (.name [← word]))
  else if ← symbol? "[" then return some (.index (← subscript))
  else return none

def stepsFor : Nat → Reader (List Step)
  | 0 => return []
  | n + 1 => do
    match ← step? with
    | none => return []
    | some .star => return [.star]
    | some s => return s :: (← stepsFor n)

def compound (root : Expr) : Reader Expr := do
  let steps ← stepsFor ((← get).length + 1)
  let parts := steps.filterMap Step.part?
  let plain := if parts.length + (steps.countP Step.isStar) = steps.length then
    names? (root :: parts) else none
  if steps.any Step.isStar then
    match plain with
    | some table => return .star table
    | none => fail
  else if steps.isEmpty then return root
  else match plain with
    | some parts => return .name parts
    | none => return .path root (steps.flatMap Step.exprs)

def notLevel : String → Option Level
  | "IN" => some .between
  | "BETWEEN" => some .between
  | "LIKE" => some .like
  | "ILIKE" => some .like
  | "RLIKE" => some .like
  | "REGEXP" => some .like
  | "MATCH" => some .like
  | "SIMILAR" => some .like
  | "MEMBER" => some .like
  | "NULL" => some .is
  | _ => none

def nextLevel : Reader (Option Level) := do
  match ← peek with
  | some (.symbol s) => return Grammar.dialect.symbolLevel? s
  | some (.word w) => match w.key with
    | "OR" => return some .or
    | "AND" => return some .and
    | "XOR" => return some .xor
    | "AT" => return if (← keyAhead 1) == "TIME" && (← keyAhead 2) == "ZONE" then some .zone else none
    | "NOT" => return notLevel (← keyAhead 1)
    | "NOTNULL" => return if isPostgres then some .is else none
    | "IS" => return some .is
    | "IN" => return some .between
    | "BETWEEN" => return some .between
    | "OVERLAPS" => return some .between
    | "OPERATOR" => return some .between
    | "LIKE" => return some .like
    | "ILIKE" => return some .like
    | "RLIKE" => return some .like
    | "REGEXP" => return some .like
    | "MATCH" => return some .like
    | "SIMILAR" => return some .like
    | "MEMBER" => return some .like
    | "DIV" => return some .product
    | "COLLATE" => return if isPostgres then some .collate else none
    | _ => return none
  | _ => return none

def rightSide (level : Level) (comparable : Bool) : Reader Expr := do
  match ← keyAmong? ["ANY", "ALL", "SOME"] with
  | none => above level
  | some _ =>
    require (← seesSymbol "(")
    let right ← if ["SELECT", "WITH"].contains (← keyAhead 1) then above level
      else parens (above level)
    require comparable
    return right

def isTest (left : Expr) : Reader Expr := do
  discard (key? "NOT")
  match ← keyAmong? ["NULL", "TRUE", "FALSE", "UNKNOWN"] with
  | some key => return .form ("IS " ++ key) [left]
  | none =>
    if ← keys? ["DISTINCT", "FROM"] then return .form "IS DISTINCT FROM" [left,← expr]
    discard (keyAmong? ["NFC", "NFD", "NFKC", "NFKD"])
    key "NORMALIZED"
    return .form "IS NORMALIZED" [left]

def membership (left : Expr) : Reader Expr := do
  if ← key? "UNNEST" then return .form "IN" [left,← parens expr]
  parens do
    match ← attempt Grammar.query with
    | some q => return .form "IN" [left,.query q]
    | none => return .form "IN" (left :: (← commas expr))

def range (left : Expr) : Reader Expr := do
  let low ← above .between
  key "AND"
  return .form "BETWEEN" [left,low,← above .between]

def pattern (label : String) (left : Expr) : Reader Expr := do
  discard (key? "ANY")
  let right ← above .like
  let sign ← optional (key? "ESCAPE") constant
  return .form label (left :: right :: sign.toList)

def test (left : Expr) : Reader Expr := do
  let negated ← key? "NOT"
  let e ← match ← peekKey with
    | "REGEXP" => skip; pure (.form "REGEXP" [left,← above .like])
    | "RLIKE" => skip; pure (.form "RLIKE" [left,← above .like])
    | "NULL" => skip; require negated; pure (.form "IS NULL" [left])
    | "IN" => skip; membership left
    | "BETWEEN" => skip; range left
    | "LIKE" => skip; pattern "LIKE" left
    | "ILIKE" => skip; pattern "ILIKE" left
    | "SIMILAR" =>
      skip
      key "TO"
      let right ← above .like
      let sign ← optional (key? "ESCAPE") constant
      pure (.form "SIMILAR TO" (left :: right :: sign.toList))
    | _ => fail
  return if negated then .form "NOT" [e] else e

def spelled : Reader Unit := discard (parens (separated (symbol? ".") next))

def ofOperatorWord (left : Expr) (level : Level) (key : String) : Reader Expr := do
  match key with
  | "OR" => skip; return .form key [left,← rightSide level false]
  | "AND" => skip; return .form key [left,← rightSide level false]
  | "XOR" => skip; return .form key [left,← rightSide level false]
  | "OVERLAPS" => skip; return .form key [left,← rightSide level false]
  | "OPERATOR" =>
    require isPostgres
    skip
    spelled
    return .form key [left,← rightSide level false]
  | "DIV" =>
    require isMySql
    skip
    return .form key [left,← expr]
  | "IS" => skip; isTest left
  | "NOTNULL" => skip; return .form "IS NULL" [left]
  | "AT" => skip; skip; skip; return .form "AT TIME ZONE" [left,← above level]
  | "COLLATE" => skip; discard name; return .form "COLLATE" [left]
  | "MEMBER" =>
    skip
    Reader.key "OF"
    return .form "MEMBER OF" [left,← parens expr]
  | _ => test left

def ofOperatorSymbol (left : Expr) (level : Level) (s : String) : Reader Expr := do
  if s == "::" then discard DataType.any; return .form "CAST" [left]
  else if s == "[" then return .path left (← subscript)
  else if s == "!" then require isPostgres; return .form "!" [left]
  else
    require (isPostgres || ! ["#", "<<", ">>", "^@"].contains s)
    return .form s
      [left,← rightSide level (Dialect.comparisons ++ Dialect.patternOperators |>.contains s)]

def operatorsFor (tightness : Nat) : Nat → Expr → Reader Expr
  | 0, left => return left
  | n + 1, left => do
    match ← nextLevel with
    | none => return left
    | some level =>
      if Grammar.dialect.tightness level ≤ tightness then return left
      match ← peek with
      | some (.symbol s) => skip; operatorsFor tightness n (← ofOperatorSymbol left level s)
      | some (.word w) => operatorsFor tightness n (← ofOperatorWord left level w.key)
      | _ => return left

def tighter (tightness : Nat) : Reader Expr := do
  let root ← first
  let e ← compound root
  let e ← if ← key? "COLLATE" then
      discard name
      pure (.form "COLLATE" [e])
    else pure e
  operatorsFor tightness ((← get).length + 1) e

end Querent.Sql.Expression
