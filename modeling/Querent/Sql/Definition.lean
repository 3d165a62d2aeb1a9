import Querent.Sql.Change

/-! Reading statements that define, alter and drop tables and other objects. -/
namespace Querent.Sql.Definition
open Reader
variable [Grammar]

def ifExists : Reader Unit := discard (keys? ["IF", "EXISTS"])

def ifNotExists : Reader Unit := discard (keys? ["IF", "NOT", "EXISTS"])

def plainValue : Reader Expr := Expression.above .is

def cascade : Reader Unit := discard (keyAmong? ["CASCADE", "RESTRICT"])

def indexColumns : Reader Unit := discard (tuple do
  discard Call.orderItem
  discard (attempt name))

def references : Reader Unit := do
  discard name
  if ← seesSymbol "(" then discard columns
  discard (many (optional (key? "ON") do
    discard (keyAmong ["DELETE", "UPDATE"])
    if !(← keys? ["SET", "NULL"]) then
      if !(← keys? ["SET", "DEFAULT"]) then
        if !(← keys? ["NO", "ACTION"]) then discard (keyAmong ["RESTRICT", "CASCADE"])))

def characteristics : Reader Unit := do
  discard (many (attempt do
    discard (key? "NOT")
    match ← keyAmong ["DEFERRABLE", "INITIALLY", "ENFORCED"] with
    | "INITIALLY" => discard (keyAmong ["DEFERRED", "IMMEDIATE"])
    | _ => pure ()))

def constraint : Reader Unit := do
  if ← key? "CONSTRAINT" then discard word
  match ← keyAmong ["PRIMARY", "UNIQUE", "FOREIGN", "CHECK", "INDEX", "KEY", "FULLTEXT", "SPATIAL",
      "EXCLUDE"] with
  | "PRIMARY" => key "KEY"; indexColumns
  | "UNIQUE" =>
    discard (keyAmong? ["INDEX", "KEY"])
    if !(← seesSymbol "(") then discard word
    indexColumns
  | "FOREIGN" =>
    key "KEY"
    if !(← seesSymbol "(") then discard word
    discard columns
    key "REFERENCES"
    references
  | "CHECK" => discard (parens expr)
  | "EXCLUDE" => fail
  | _ =>
    require isMySql
    discard (keyAmong? ["INDEX", "KEY"])
    if !(← seesSymbol "(") then discard word
    indexColumns
  characteristics

def columnOption : Reader (Option Unit) := do
  if ← key? "CONSTRAINT" then discard word
  if ← keys? ["NOT", "NULL"] then return some ()
  match ← keyAmong? ["NULL", "DEFAULT", "PRIMARY", "UNIQUE", "REFERENCES", "CHECK", "COLLATE",
      "COMMENT", "GENERATED", "AUTO_INCREMENT", "CHARACTER", "ON", "AS", "VISIBLE", "INVISIBLE"] with
  | none => return none
  | some "DEFAULT" => discard plainValue
  | some "PRIMARY" => key "KEY"; characteristics
  | some "UNIQUE" => discard (key? "KEY"); characteristics
  | some "REFERENCES" => references; characteristics
  | some "CHECK" => discard (parens expr)
  | some "COLLATE" => discard name
  | some "COMMENT" => string
  | some "GENERATED" =>
    if !(← keys? ["BY", "DEFAULT"]) then key "ALWAYS"
    key "AS"
    if ← key? "IDENTITY" then discard (optional (seesSymbol "(") (parens (many (attempt do
      discard (keyAmong ["START", "INCREMENT", "MINVALUE", "MAXVALUE", "CACHE", "CYCLE"])
      discard (keyAmong? ["WITH", "BY"])
      discard (attempt Expression.constant)))))
    else
      discard (parens expr)
      discard (keyAmong? ["STORED", "VIRTUAL"])
  | some "CHARACTER" => key "SET"; discard name
  | some "ON" => require isMySql; key "UPDATE"; discard expr
  | some "AS" => require isMySql; discard (parens expr); discard (keyAmong? ["STORED", "VIRTUAL"])
  | some _ => return some ()
  return some ()

def column : Reader Unit := do
  discard word
  discard DataType.any
  discard (many columnOption)

def startsConstraint : Reader Bool := do
  let key ← peekKey
  if key == "INDEX" || key == "KEY" || key == "FULLTEXT" || key == "SPATIAL" then return isMySql
  return ["CONSTRAINT", "PRIMARY", "UNIQUE", "FOREIGN", "CHECK"].contains key

def tableElement : Reader Unit := do
  if ← startsConstraint then constraint else column

def tableOption : Reader (Option Unit) := do
  if ["AS", "SELECT", "WITH", "ON", "INHERITS"].contains (← peekKey) then return none
  match ← peek with
  | some (.word _) =>
    require isMySql
    discard (key? "DEFAULT")
    discard (many (attempt do require (!(← seesSymbol "=")); word))
    discard (symbol? "=")
    match ← next with
    | .word _ => pure ()
    | .number _ => pure ()
    | .constant .. => pure ()
    | _ => fail
    discard (symbol? ",")
    return some ()
  | _ => return none

def table : Reader Unit := do
  ifNotExists
  discard name
  if (← keyAmong? ["LIKE", "CLONE"]).isSome then discard name
  else
    let defined ← optional (seesSymbol "(") (tuple0 tableElement)
    if ← key? "INHERITS" then discard (tuple name)
    discard (many tableOption)
    if ← key? "WITH" then discard (tuple expr)
    if ← keys? ["ON", "COMMIT"] then
      if !(← keys? ["PRESERVE", "ROWS"]) then
        if !(← keys? ["DELETE", "ROWS"]) then key "DROP"
    let explicit ← key? "AS"
    if explicit || (← Change.seesQuery) then discard Grammar.query
    else require (defined.isSome || isPostgres)

def view : Reader Unit := do
  ifNotExists
  discard name
  if ← seesSymbol "(" then discard (tuple word)
  if ← key? "WITH" then discard (tuple expr)
  key "AS"
  discard Grammar.query
  if ← key? "WITH" then
    if !(← keys? ["NO", "SCHEMA", "BINDING"]) then
      if !(← keys? ["NO", "DATA"]) then
        discard (keyAmong? ["CASCADED", "LOCAL"])
        if !(← key? "DATA") then keys ["CHECK", "OPTION"]

def index : Reader Unit := do
  discard (key? "CONCURRENTLY")
  ifNotExists
  if !(← seesKey "ON") then
    discard name
    if ← key? "USING" then discard word
  key "ON"
  discard name
  if ← key? "USING" then discard word
  indexColumns
  if ← key? "INCLUDE" then discard columns
  if ← key? "NULLS" then
    discard (key? "NOT")
    key "DISTINCT"
  if ← key? "WITH" then discard (tuple expr)
  Change.condition

def sequenceOption : Reader (Option Unit) := attempt do
  match ← keyAmong ["INCREMENT", "MINVALUE", "MAXVALUE", "START", "CACHE", "CYCLE", "NO", "OWNED",
      "AS"] with
  | "INCREMENT" => discard (key? "BY"); discard (Expression.above .sum)
  | "START" => discard (key? "WITH"); discard (Expression.above .sum)
  | "CYCLE" => pure ()
  | "NO" => discard (keyAmong ["MINVALUE", "MAXVALUE", "CYCLE"])
  | "OWNED" => key "BY"; discard name
  | "AS" => discard DataType.any
  | _ => discard (Expression.above .sum)

def schemaName : Reader Unit := do
  ifNotExists
  if ← key? "AUTHORIZATION" then discard word
  else
    discard name
    if ← key? "AUTHORIZATION" then discard word

def parameters : Reader Unit := discard (tuple0 do
  discard (keyAmong? ["IN", "OUT", "INOUT"])
  discard DataType.any
  discard (attempt DataType.any)
  if (← keyAmong? ["DEFAULT"]).isSome then discard expr
  else if ← symbol? "=" then discard expr)

def functionClause : Reader (Option Unit) := attempt do
  match ← keyAmong ["AS", "LANGUAGE", "IMMUTABLE", "STABLE", "VOLATILE", "STRICT", "CALLED", "RETURNS",
      "RETURN", "PARALLEL"] with
  | "AS" => discard (commas quotedText)
  | "LANGUAGE" => discard word
  | "CALLED" => keys ["ON", "NULL", "INPUT"]
  | "RETURNS" => keys ["NULL", "ON", "NULL", "INPUT"]
  | "RETURN" => discard expr
  | "PARALLEL" => discard (keyAmong ["SAFE", "UNSAFE", "RESTRICTED"])
  | _ => pure ()
where
  quotedText : Reader Unit := do
    match ← next with
    | .constant .. => pure ()
    | _ => fail

def function : Reader Unit := do
  require isPostgres
  discard name
  parameters
  if ← key? "RETURNS" then
    discard (key? "SETOF")
    discard DataType.any
  discard (many functionClause)

def trigger : Reader Unit := do
  discard name
  if !(← keys? ["INSTEAD", "OF"]) then discard (keyAmong ["BEFORE", "AFTER", "FOR"])
  discard (separated (key? "OR") do
    match ← keyAmong ["INSERT", "UPDATE", "DELETE", "TRUNCATE"] with
    | "UPDATE" => discard (optional (key? "OF") (commas word))
    | _ => pure ())
  key "ON"
  discard name
  if ← key? "FOR" then
    discard (key? "EACH")
    discard (keyAmong ["ROW", "STATEMENT"])
  if ← key? "WHEN" then discard (parens expr)
  key "EXECUTE"
  discard (keyAmong ["FUNCTION", "PROCEDURE"])
  discard name
  if ← seesSymbol "(" then discard (tuple0 expr)

def typeBody : Reader Unit := do
  discard name
  if ← key? "AS" then
    if ← key? "ENUM" then discard (tuple0 word)
    else discard (tuple0 do discard word; discard DataType.any)

def roleOption : Reader (Option Unit) := attempt do
  match ← next with
  | .word w => require (w.key != "")
  | .constant .plain _ => pure ()
  | .number _ => pure ()
  | _ => fail

def domain : Reader Unit := do
  discard name
  key "AS"
  discard DataType.any
  discard (many columnOption)

def create : Reader Unit := do
  let replaced ← keys? ["OR", "REPLACE"]
  discard (keyAmong? ["LOCAL", "GLOBAL"])
  let temporary := (← keyAmong? ["TEMP", "TEMPORARY"]).isSome
  let kind ← peekKey
  skip
  match kind with
  | "TABLE" => table
  | "UNLOGGED" => key "TABLE"; table
  | "VIEW" => view
  | "MATERIALIZED" => key "VIEW"; view
  | "RECURSIVE" => key "VIEW"; view
  | "FUNCTION" => function
  | "TRIGGER" => trigger
  | "CONSTRAINT" => key "TRIGGER"; trigger
  | "USER" => ifNotExists; discard word; discard (many roleOption)
  | "DOMAIN" => domain
  | other =>
    require !replaced
    require (!temporary || other == "SEQUENCE")
    match other with
    | "EXTENSION" =>
      ifNotExists
      discard word
      discard (key? "WITH")
      if ← key? "SCHEMA" then discard word
      if ← key? "VERSION" then discard word
      discard (key? "CASCADE")
    | "INDEX" => index
    | "UNIQUE" => key "INDEX"; index
    | "DATABASE" =>
      ifNotExists
      discard name
      discard (many roleOption)
    | "SCHEMA" => schemaName
    | "SEQUENCE" =>
      ifNotExists
      discard name
      discard (many sequenceOption)
    | "ROLE" => ifNotExists; discard (commas name); discard (key? "WITH"); discard (many roleOption)
    | "TYPE" => typeBody
    | _ => fail

def drop : Reader Unit := do
  if isMySql then discard (key? "TEMPORARY")
  match ← keyAmong ["TABLE", "VIEW", "MATERIALIZED", "INDEX", "ROLE", "SCHEMA", "DATABASE", "SEQUENCE",
      "STAGE", "TYPE", "USER", "STREAM", "FUNCTION", "PROCEDURE", "TRIGGER", "EXTENSION", "DOMAIN",
      "POLICY"] with
  | "FUNCTION" => routine
  | "PROCEDURE" => routine
  | "TRIGGER" => onTable
  | "POLICY" => onTable
  | "MATERIALIZED" => key "VIEW"; objects
  | _ => objects
where
  routine : Reader Unit := do
    ifExists
    discard (commas do
      discard name
      if ← seesSymbol "(" then parameters)
    cascade
  onTable : Reader Unit := do
    ifExists
    discard word
    discard (optional (key? "ON") name)
    cascade
  objects : Reader Unit := do
    ifExists
    discard (commas name)
    cascade
    discard (key? "PURGE")
    discard (optional (key? "ON") name)

def alterColumn : Reader Unit := do
  discard (key? "COLUMN")
  discard word
  match ← keyAmong ["SET", "DROP", "TYPE", "ADD"] with
  | "SET" =>
    match ← keyAmong ["NOT", "DEFAULT", "DATA"] with
    | "NOT" => key "NULL"
    | "DEFAULT" => discard expr
    | _ =>
      key "TYPE"
      discard DataType.any
      discard (optional (key? "USING") expr)
  | "DROP" => if ← key? "NOT" then key "NULL" else key "DEFAULT"
  | "TYPE" =>
    discard DataType.any
    discard (optional (key? "USING") expr)
  | _ => keys ["GENERATED", "ALWAYS", "AS", "IDENTITY"]

def columnPosition : Reader Unit := do
  if isMySql then
    if !(← key? "FIRST") then discard (optional (key? "AFTER") word)

def alterTableOperation : Reader Unit := do
  match ← keyAmong ["ADD", "DROP", "RENAME", "ALTER", "CHANGE", "MODIFY", "OWNER", "ENABLE", "DISABLE",
      "SET", "AUTO_INCREMENT", "VALIDATE"] with
  | "ADD" =>
    if ← startsConstraint then constraint
    else
      discard (key? "COLUMN")
      ifNotExists
      column
      columnPosition
  | "DROP" =>
    if ← key? "PRIMARY" then key "KEY"
    else if ← keys? ["FOREIGN", "KEY"] then discard word
    else
      discard (keyAmong? ["COLUMN", "CONSTRAINT", "INDEX"])
      ifExists
      discard (commas word)
    cascade
  | "RENAME" =>
    if (← keyAmong? ["TO", "AS"]).isSome then discard name
    else
      discard (keyAmong? ["COLUMN", "CONSTRAINT", "INDEX", "KEY"])
      discard word
      key "TO"
      discard word
  | "ALTER" => alterColumn
  | "CHANGE" =>
    discard (key? "COLUMN")
    discard word
    column
    columnPosition
  | "MODIFY" =>
    discard (key? "COLUMN")
    column
    columnPosition
  | "OWNER" => key "TO"; discard word
  | "SET" => if ← key? "SCHEMA" then discard name else discard (tuple expr)
  | "AUTO_INCREMENT" => discard (symbol? "="); count
  | "VALIDATE" => key "CONSTRAINT"; discard word
  | _ =>
    if !(← keys? ["ROW", "LEVEL", "SECURITY"]) then
      discard (keyAmong? ["ALWAYS", "REPLICA"])
      discard (keyAmong ["TRIGGER", "RULE"])
      discard word

def alter : Reader Unit := do
  match ← keyAmong ["TABLE", "VIEW", "INDEX", "ROLE", "SCHEMA", "TYPE", "USER"] with
  | "TABLE" =>
    ifExists
    discard (key? "ONLY")
    discard name
    discard (commas alterTableOperation)
  | "VIEW" =>
    discard name
    if ← seesSymbol "(" then discard columns
    key "AS"
    discard Grammar.query
  | "INDEX" => discard name; keys ["RENAME", "TO"]; discard name
  | "TYPE" =>
    discard name
    match ← keyAmong ["RENAME", "ADD"] with
    | "RENAME" => discard (optional (key? "VALUE") word); key "TO"; discard word
    | _ =>
      key "VALUE"
      ifNotExists
      discard word
      discard (optional (return (← keyAmong? ["BEFORE", "AFTER"]).isSome) word)
  | "SCHEMA" =>
    ifExists
    discard name
    match ← keyAmong ["RENAME", "OWNER"] with
    | _ => key "TO"; discard name
  | _ =>
    discard word
    discard (many roleOption)

end Querent.Sql.Definition
