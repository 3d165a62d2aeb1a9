import Querent.Sql.Reader

/-! Reading the names of data types. Types of other engines that the dialects let through are read like
names that users may define; those with a syntax of their own (`ANY TYPE`, `TABLE`, values of an `ENUM`
with their numbers) are left out. -/
namespace Querent.Sql.DataType
open Reader

def bare : List String :=
  ["BOOLEAN", "BOOL", "REAL", "FLOAT4", "FLOAT8", "FLOAT32", "FLOAT64", "UUID", "DATE", "DATE32",
    "TIMESTAMP_NTZ", "TINYBLOB", "MEDIUMBLOB", "LONGBLOB", "JSON", "JSONB", "REGCLASS", "TEXT",
    "TINYTEXT", "MEDIUMTEXT", "LONGTEXT", "BYTEA", "INT16", "INT32", "INT64", "INT128", "INT256",
    "UINT8", "UINT16", "UINT32", "UINT64", "UINT128", "UINT256", "TRIGGER"]

def whole : List String :=
  ["INT", "INTEGER", "TINYINT", "SMALLINT", "MEDIUMINT", "BIGINT", "INT2", "INT4", "INT8",
    "UTINYINT", "USMALLINT", "UBIGINT", "UHUGEINT", "HUGEINT"]

def signed : List String := ["INT", "INTEGER", "TINYINT", "SMALLINT", "MEDIUMINT", "BIGINT"]

def sized : List String :=
  ["VARCHAR", "NVARCHAR", "CLOB", "BLOB", "BYTES", "DATETIME", "STRING", "VARBINARY", "VARBIT"]

def scaled : List String := ["NUMERIC", "DECIMAL", "DEC", "FLOAT", "BIGNUMERIC", "BIGDECIMAL"]

def shapes : List String := ["POINT", "LINE", "LSEG", "BOX", "PATH", "POLYGON", "CIRCLE"]

def searches : List String := ["TSVECTOR", "TSQUERY"]

def timeFields : List String :=
  ["YEAR", "YEARS", "MONTH", "MONTHS", "WEEK", "WEEKS", "DAY", "DAYS", "DATE", "DATETIME", "HOUR",
    "HOURS", "MINUTE", "MINUTES", "SECOND", "SECONDS", "CENTURY", "DECADE", "DOW", "DOY", "EPOCH",
    "ISODOW", "ISOWEEK", "ISOYEAR", "JULIAN", "MICROSECOND", "MICROSECONDS", "MILLENIUM",
    "MILLENNIUM", "MILLISECOND", "MILLISECONDS", "NANOSECOND", "NANOSECONDS", "QUARTER", "TIME",
    "TIMEZONE", "TIMEZONE_ABBR", "TIMEZONE_HOUR", "TIMEZONE_MINUTE", "TIMEZONE_REGION"]

inductive Kind where
  | builtIn
  | interval
  | binary
  | custom
  deriving DecidableEq, Repr

def characters : Reader Unit := do
  if (← keyAmong? ["MAX"]).isNone then
    count
    discard (keyAmong? ["CHARACTERS", "OCTETS"])

def size : Reader Unit := discard (optional (seesSymbol "(") (parens characters))

def precision : Reader Unit := discard (optional (seesSymbol "(") (parens count))

def scale : Reader Unit := do
  discard (symbol? "-")
  count

def precisionAndScale : Reader Unit :=
  discard (optional (seesSymbol "(") (parens do count; discard (optional (symbol? ",") scale)))

def zone : Reader Unit := do
  match ← keyAmong? ["WITH", "WITHOUT"] with
  | some _ => keys ["TIME", "ZONE"]
  | none => pure ()

def modifiers : Reader Unit :=
  discard (optional (seesSymbol "(") (parens (commas do
    match ← next with
    | .word _ => pure ()
    | .number _ => pure ()
    | .constant .plain _ => pure ()
    | _ => fail)))

variable [Grammar]

def brackets : Reader Unit := do
  discard (many (optional (symbol? "[") do
    discard (optional (return !(← seesSymbol "]")) count)
    symbol "]"))

def plainFor : Nat → Reader Kind
  | 0 => fail
  | n + 1 => do
    let key ← peekKey
    if key == "INTERVAL" then
      skip
      if isPostgres then
        discard (optional (return timeFields.contains (← peekKey)) do
          skip
          discard (optional (key? "TO") (keyAmong timeFields)))
        precision
      return .interval
    else if bare.contains key then skip; return .builtIn
    else if isPostgres && (shapes.contains key || searches.contains key) then skip; return .builtIn
    else if whole.contains key then
      skip; precision
      if !(← key? "UNSIGNED") then discard (given (isMySql && signed.contains key) (key? "SIGNED"))
      return .builtIn
    else if scaled.contains key then
      skip; precisionAndScale
      discard (key? "UNSIGNED")
      return .builtIn
    else if sized.contains key then skip; size; return .builtIn
    else match key with
    | "DOUBLE" =>
      skip
      if !(← key? "PRECISION") then precisionAndScale
      discard (key? "UNSIGNED")
      return .builtIn
    | "CHAR" =>
      skip
      if !(← keys? ["LARGE", "OBJECT"]) then discard (key? "VARYING")
      size
      return .builtIn
    | "CHARACTER" =>
      skip
      if !(← keys? ["LARGE", "OBJECT"]) then discard (key? "VARYING")
      size
      return .builtIn
    | "BIT" => skip; discard (key? "VARYING"); precision; return .builtIn
    | "BINARY" =>
      skip
      if ← keys? ["LARGE", "OBJECT"] then precision; return .builtIn
      else precision; return .binary
    | "TIMESTAMP" => skip; precision; zone; return .builtIn
    | "TIMESTAMPTZ" => skip; precision; return .builtIn
    | "TIME" => skip; precision; zone; return .builtIn
    | "TIMETZ" => skip; precision; return .builtIn
    | "SIGNED" => skip; discard (keyAmong? ["INTEGER"]); return .builtIn
    | "UNSIGNED" => skip; discard (keyAmong? ["INTEGER"]); return .builtIn
    | "ENUM" => skip; discard (tuple string); return .builtIn
    | "SET" => skip; discard (tuple string); return .builtIn
    | "ARRAY" =>
      skip
      symbol "<"
      discard (plainFor n)
      brackets
      symbol ">"
      return .builtIn
    | _ => discard name; modifiers; return .custom

def any : Reader Kind := do
  let kind ← plainFor ((← get).length + 1)
  if isPostgres && (← seesSymbol "[") then brackets; return .builtIn else return kind

def startsBuiltIn : Reader Bool := do
  let key ← peekKey
  return key == "INTERVAL" || bare.contains key || shapes.contains key || searches.contains key ||
    whole.contains key || scaled.contains key || sized.contains key ||
    ["DOUBLE", "CHAR", "CHARACTER", "BIT", "BINARY", "TIMESTAMP", "TIMESTAMPTZ", "TIME", "TIMETZ",
      "SIGNED", "UNSIGNED", "ENUM", "SET", "ARRAY"].contains key

end Querent.Sql.DataType
