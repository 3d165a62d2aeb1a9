import Querent.Sql.Definition

/-! Reading all other statements: transactions, sessions, rights, cursors and maintenance. Only their
first words are kept. -/
namespace Querent.Sql.Command
open Reader
variable [Grammar]

def transactionModes : Reader Unit := discard (many (attempt do
  discard (symbol? ",")
  match ← keyAmong ["ISOLATION", "READ"] with
  | "READ" => discard (keyAmong ["ONLY", "WRITE"])
  | _ =>
    key "LEVEL"
    match ← keyAmong ["READ", "REPEATABLE", "SERIALIZABLE", "SNAPSHOT"] with
    | "READ" => discard (keyAmong ["UNCOMMITTED", "COMMITTED"])
    | "REPEATABLE" => key "READ"
    | _ => pure ()))

def transactionEnd : Reader Unit := do
  discard (keyAmong? ["TRANSACTION", "WORK"])
  if ← key? "AND" then
    discard (key? "NO")
    key "CHAIN"

def kinds : List String :=
  ["SEQUENCE", "DATABASE", "SCHEMA", "TABLE", "VIEW", "FUNCTION", "PROCEDURE", "WAREHOUSE",
    "INTEGRATION", "USER", "CONNECTION", "ROLE", "TYPE", "DOMAIN"]

def rights : Reader Unit := do
  if ← key? "ALL" then discard (key? "PRIVILEGES")
  else
    let right : Reader Unit := do
      require ((← peekKey) != "")
      discard (many (attempt do
        require (! ["ON", "TO", "FROM"].contains (← peekKey))
        match ← next with
        | .word w => require (w.key != "")
        | _ => fail))
      if ← seesSymbol "(" then discard columns
    discard (commas right)
  if ← key? "ON" then
    if ← key? "ALL" then
      discard (keyAmong ["TABLES", "SEQUENCES", "VIEWS", "FUNCTIONS"])
      keys ["IN", "SCHEMA"]
      discard (commas name)
    else
      discard (keyAmong? kinds)
      discard (commas do
        if (← peek) == some (.symbol "*") then
          skip
          if ← symbol? "." then symbol "*"
        else
          let starred : Reader Unit := do
            discard word
            symbol "."
            symbol "*"
          if (← attempt starred).isNone then discard name
        if ← seesSymbol "(" then discard (tuple0 DataType.any))

def grantees : Reader Unit := discard (commas do
  if !(← key? "PUBLIC") then
    discard (keyAmong? ["ROLE", "USER", "SHARE", "GROUP"])
    discard name
    if ← symbol? "@" then discard word)

def grant : Reader Unit := do
  rights
  key "TO"
  grantees
  discard (keys? ["WITH", "GRANT", "OPTION"])
  if ← keys? ["GRANTED", "BY"] then discard word

def revoke : Reader Unit := do
  discard (keys? ["GRANT", "OPTION", "FOR"])
  rights
  key "FROM"
  grantees
  if ← keys? ["GRANTED", "BY"] then discard word
  Definition.cascade

def values : Reader Unit := discard (commas expr)

def set : Reader Unit := do
  let inScope := (← keyAmong? ["SESSION", "LOCAL", "GLOBAL"]).isSome
  if ← key? "ROLE" then discard word
  else if ← keys? ["TIME", "ZONE"] then zone
  else if ← key? "TIMEZONE" then zone
  else if ← key? "NAMES" then
    discard word
    if ← key? "COLLATE" then string
  else if ← key? "CHARACTERISTICS" then
    keys ["AS", "TRANSACTION"]
    transactionModes
  else if ← key? "TRANSACTION" then
    if ← key? "SNAPSHOT" then discard Expression.constant else transactionModes
  else if ← key? "AUTHORIZATION" then
    require inScope
    discard word
  else if isMySql then discard (commas do
    discard (keyAmong? ["SESSION", "LOCAL", "GLOBAL"])
    discard name
    if !(← symbol? "=") then
      if !(← symbol? ":=") then key "TO"
    discard expr)
  else
    discard name
    if !(← symbol? "=") then key "TO"
    values
where
  zone : Reader Unit := do
    if ← symbol? "=" then values
    else if ← key? "TO" then values
    else discard expr

def showFilter : Reader Unit := do
  match ← keyAmong? ["LIKE", "ILIKE", "WHERE"] with
  | some "WHERE" => discard expr
  | some _ => string
  | none => discard (attempt string)

def showPlace : Reader Unit := do
  if (← keyAmong? ["FROM", "IN"]).isSome then
    discard (keyAmong? ["DATABASE", "SCHEMA", "TABLE", "VIEW"])
    discard name
    if (← keyAmong? ["FROM", "IN"]).isSome then discard name
  showFilter

def variableWords : Reader Unit := fun ts =>
  .ok ((),ts.dropWhile fun t => t.token != .symbol "=" && t.token != .symbol ";")

def showObjects : Reader Unit := do
  discard (key? "TERSE")
  let extended ← key? "EXTENDED"
  let full ← key? "FULL"
  discard (keyAmong? ["SESSION", "GLOBAL"])
  discard (key? "EXTERNAL")
  let listed := (← keyAmong? ["COLUMNS", "FIELDS", "TABLES", "VIEWS", "FUNCTIONS"]).isSome
  if listed then showPlace
  else if ← keys? ["MATERIALIZED", "VIEWS"] then showPlace
  else
    require (!extended && !full)
    if ← key? "CREATE" then
      discard (keyAmong ["TABLE", "TRIGGER", "FUNCTION", "PROCEDURE", "EVENT", "VIEW"])
      discard name
    else if ← key? "COLLATION" then showFilter
    else if ← given isMySql (key? "VARIABLES") then showFilter
    else if ← given isMySql (key? "STATUS") then showFilter
    else if (← keyAmong? ["DATABASES", "SCHEMAS", "CATALOGS"]).isSome then
      discard (key? "HISTORY")
      showPlace
    else if ← keys? ["CHARACTER", "SET"] then showFilter
    else variableWords

def utilityOptions : Reader Unit := discard (tuple do
  discard word
  match ← peek with
  | some (.symbol _) => pure ()
  | _ => discard expr)

def explain (options : Bool) : Reader Unit := do
  let format : Reader Unit := do
    discard (symbol? "=")
    discard (keyAmong ["TEXT", "GRAPHVIZ", "JSON", "TRADITIONAL", "TREE"])
  if options && isPostgres && (← seesSymbol "(") then utilityOptions
  else if !(← keys? ["QUERY", "PLAN"]) then
    if !(← key? "ESTIMATE") then
      discard (key? "ANALYZE")
      discard (key? "VERBOSE")
      if ← key? "FORMAT" then format
  let nested := ["EXPLAIN", "DESCRIBE", "DESC"].contains (← peekKey)
  if (← attempt Grammar.statement).isSome then require !nested
  else
    discard (keyAmong? ["EXTENDED", "FORMATTED"])
    discard name

def analyze : Reader Unit := do
  discard (key? "TABLE")
  discard name
  discard (many (attempt do
    match ← keyAmong ["PARTITION", "FOR", "CACHE", "NOSCAN", "COMPUTE"] with
    | "PARTITION" => discard (tuple expr)
    | "FOR" => key "COLUMNS"; discard (attempt (commas word))
    | "CACHE" => key "METADATA"
    | "COMPUTE" => key "STATISTICS"
    | _ => pure ()))

def truncate : Reader Unit := do
  discard (key? "TABLE")
  discard (key? "ONLY")
  discard (commas name)
  if ← key? "PARTITION" then discard (tuple expr)
  if isPostgres then
    if !(← keys? ["RESTART", "IDENTITY"]) then discard (keys? ["CONTINUE", "IDENTITY"])
    Definition.cascade

def rowCount : Reader Unit := do
  discard (symbol? "-")
  discard Expression.constant

def fetch : Reader Unit := do
  match ← keyAmong? ["NEXT", "PRIOR", "FIRST", "LAST", "ABSOLUTE", "RELATIVE", "FORWARD", "BACKWARD",
      "ALL"] with
  | none => rowCount
  | some "ABSOLUTE" => rowCount
  | some "RELATIVE" => rowCount
  | some "FORWARD" => if !(← key? "ALL") then discard (attempt rowCount)
  | some "BACKWARD" => if !(← key? "ALL") then discard (attempt rowCount)
  | some _ => pure ()
  discard (keyAmong ["FROM", "IN"])
  discard word
  if ← key? "INTO" then discard name

def declareCursor : Reader Unit := do
  discard word
  discard (key? "BINARY")
  discard (keyAmong? ["INSENSITIVE", "ASENSITIVE"])
  if ← key? "NO" then key "SCROLL" else discard (key? "SCROLL")
  key "CURSOR"
  if (← keyAmong? ["WITH", "WITHOUT"]).isSome then key "HOLD"
  key "FOR"
  discard Grammar.query

def copy : Reader Unit := do
  let fromQuery ← if ← symbol? "(" then
      discard Grammar.query
      symbol ")"
      pure true
    else
      discard name
      if ← seesSymbol "(" then discard columns
      pure false
  let incoming := (← keyAmong ["FROM", "TO"]) == "FROM"
  require (!fromQuery || !incoming)
  let source ← keyAmong? ["STDIN", "STDOUT", "PROGRAM"]
  if source.isNone || source == some "PROGRAM" then string
  discard (key? "WITH")
  discard (optional (seesSymbol "(") (tuple do
    discard word
    if ← seesSymbol "(" then discard columns
    else discard (attempt do
      require (!(← seesSymbol ",") && !(← seesSymbol ")"))
      discard next)))
  discard (many (attempt do
    discard (keyAmong ["BINARY", "DELIMITER", "NULL", "CSV", "HEADER", "QUOTE", "ESCAPE"])
    discard (key? "AS")
    discard (attempt string)))
  if source == some "STDIN" then
    symbol ";"
    modify fun _ => []

def flush : Reader Unit := do
  require isMySql
  discard (keyAmong? ["NO_WRITE_TO_BINLOG", "LOCAL"])
  match ← keyAmong ["BINARY", "ENGINE", "ERROR", "GENERAL", "SLOW", "RELAY", "HOSTS", "LOGS",
      "PRIVILEGES", "OPTIMIZER_COSTS", "STATUS", "USER_RESOURCES", "TABLES"] with
  | "BINARY" => key "LOGS"
  | "ENGINE" => key "LOGS"
  | "ERROR" => key "LOGS"
  | "GENERAL" => key "LOGS"
  | "SLOW" => key "LOGS"
  | "RELAY" =>
    key "LOGS"
    if ← keys? ["FOR", "CHANNEL"] then discard name
  | "TABLES" =>
    discard (many (attempt do
      if ← key? "WITH" then keys ["READ", "LOCK"]
      else if ← key? "FOR" then key "EXPORT"
      else discard (commas name)))
    skip
  | _ => pure ()

def lockTables : Reader Unit := do
  require isMySql
  key "TABLES"
  discard (commas do
    discard name
    if ← key? "AS" then discard word
    else if ! ["READ", "WRITE", "LOW_PRIORITY"].contains (← peekKey) then discard word
    if ← key? "READ" then discard (key? "LOCAL")
    else
      discard (key? "LOW_PRIORITY")
      key "WRITE")

def comment : Reader Unit := do
  require isPostgres
  Definition.ifExists
  key "ON"
  match ← keyAmong ["COLUMN", "DATABASE", "DOMAIN", "EXTENSION", "FUNCTION", "INDEX", "MATERIALIZED",
      "PROCEDURE", "ROLE", "SCHEMA", "SEQUENCE", "TABLE", "TYPE", "USER", "VIEW"] with
  | "MATERIALIZED" => key "VIEW"
  | _ => pure ()
  discard name
  key "IS"
  if !(← key? "NULL") then string

def execute : Reader Unit := do
  discard name
  if ← seesSymbol "(" then discard (tuple0 expr)
  else if (← peek).isSome && !(← seesSymbol ";") && !(← seesKey "USING") then values
  if ← key? "USING" then discard (commas Selection.item)

def pragma : Reader Unit := do
  discard name
  let value : Reader Unit := do
    match ← next with
    | .number _ => pure ()
    | .parameter _ => pure ()
    | .constant .plain _ => pure ()
    | .constant .double _ => pure ()
    | _ => fail
  if ← symbol? "=" then value
  else if ← seesSymbol "(" then parens value

def rest : String → Reader Unit
  | "EXPLAIN" => explain true
  | "DESC" => explain false
  | "DESCRIBE" => explain false
  | "ANALYZE" => analyze
  | "KILL" => do
    discard (keyAmong? ["CONNECTION", "QUERY"])
    count
  | "FLUSH" => flush
  | "TRUNCATE" => truncate
  | "ATTACH" => do
    discard (key? "DATABASE")
    discard expr
    key "AS"
    discard word
  | "CREATE" => Definition.create
  | "DROP" => Definition.drop
  | "ALTER" => Definition.alter
  | "DISCARD" => discard (keyAmong ["ALL", "PLANS", "SEQUENCES", "TEMP", "TEMPORARY"])
  | "DECLARE" => declareCursor
  | "FETCH" => fetch
  | "OPEN" => discard word
  | "CLOSE" => discard word
  | "CALL" => do
    let function ← name
    if ← seesSymbol "(" then discard (Call.call function)
  | "COPY" => copy
  | "SET" => set
  | "SHOW" => showObjects
  | "USE" => discard name
  | "GRANT" => grant
  | "DENY" => do
    rights
    key "TO"
    grantees
    discard (key? "CASCADE")
  | "REVOKE" => revoke
  | "START" => do
    key "TRANSACTION"
    transactionModes
  | "BEGIN" => do
    discard (keyAmong? ["TRANSACTION", "WORK"])
    transactionModes
  | "END" => transactionEnd
  | "COMMIT" => transactionEnd
  | "ROLLBACK" => do
    transactionEnd
    if ← key? "TO" then
      discard (key? "SAVEPOINT")
      discard word
  | "SAVEPOINT" => discard word
  | "RELEASE" => do
    discard (key? "SAVEPOINT")
    discard word
  | "ASSERT" => do
    discard expr
    discard (optional (key? "AS") expr)
  | "DEALLOCATE" => do
    discard (key? "PREPARE")
    discard word
  | "EXECUTE" => execute
  | "EXEC" => execute
  | "PREPARE" => do
    discard word
    discard (optional (seesSymbol "(") (tuple DataType.any))
    key "AS"
    discard Grammar.statement
  | "LISTEN" => do
    require isPostgres
    discard word
  | "UNLISTEN" => do
    require isPostgres
    if !(← symbol? "*") then discard word
  | "NOTIFY" => do
    require isPostgres
    discard word
    discard (optional (symbol? ",") string)
  | "PRAGMA" => pragma
  | "RENAME" => do
    require isMySql
    key "TABLE"
    discard (commas do
      discard name
      key "TO"
      discard name)
  | "COMMENT" => comment
  | "PRINT" => discard expr
  | "RETURN" => discard (attempt expr)
  | "VACUUM" => do
    if !(← key? "FULL") then
      if !(← keys? ["SORT", "ONLY"]) then
        if !(← keys? ["DELETE", "ONLY"]) then discard (keyAmong? ["REINDEX", "RECLUSTER"])
    discard (attempt name)
    discard (optional (key? "TO") do
      discard Expression.constant
      key "PERCENT")
    discard (key? "BOOST")
  | "RESET" => discard name
  | "LOCK" => lockTables
  | "UNLOCK" => do
    require isMySql
    key "TABLES"
  | _ => fail

def label (key : String) : String := if key == "EXEC" then "EXECUTE" else key

def statement : Reader Statement := do
  let first ← peekKey
  if ["SELECT", "WITH", "VALUES", "FROM"].contains first || (← seesSymbol "(") then
    return .query (← Grammar.query)
  if first == "REPLACE" then
    require isMySql
    skip
    Change.insert
    return .command "INSERT"
  match ← Change.change? with
  | some label => return .command label
  | none =>
    skip
    rest first
    return .command (label first)

end Querent.Sql.Command
