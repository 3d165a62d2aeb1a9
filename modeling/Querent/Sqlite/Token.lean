import Querent.Sql.Constant
import Querent.Sqlite.Numeral

/-! The tokens of SQLite, each with the stretch of the text that it is written in. -/
namespace Querent.Sqlite

inductive Token where
  | word (key : String)
  | quoted (name : String) (double : Bool)
  | number (v : Value)
  | text (s : String)
  | blob (octets : Text.Utf8.Octets)
  | symbol (spelling : String)
  | parameter
  deriving DecidableEq, Repr

structure Lexeme where
  token : Token
  spelling : String
  start : Nat
  deriving DecidableEq, Repr

def reserved : List String :=
  ["ADD", "ALL", "ALTER", "AND", "AS", "AUTOINCREMENT", "BETWEEN", "CASE", "CHECK", "COLLATE",
    "COMMIT", "CONSTRAINT", "CREATE", "DEFAULT", "DEFERRABLE", "DELETE", "DISTINCT", "DROP", "ELSE",
    "ESCAPE", "EXISTS", "FOREIGN", "FROM", "GROUP", "HAVING", "IN", "INDEX", "INSERT", "INTO", "IS",
    "ISNULL", "JOIN", "LIMIT", "NOT", "NOTHING", "NOTNULL", "NULL", "ON", "OR", "ORDER", "PRIMARY",
    "REFERENCES", "RETURNING", "SELECT", "SET", "TABLE", "THEN", "TO", "TRANSACTION", "UNION",
    "INTERSECT", "EXCEPT", "UNIQUE", "UPDATE", "USING", "VALUES", "WHEN", "WHERE"]

def joinWords : List String := ["CROSS", "FULL", "INNER", "LEFT", "NATURAL", "OUTER", "RIGHT"]

namespace Lexer

def startsName (c : Char) : Bool := c.isAlpha || c == '_' || 128 ≤ c.toNat

def continuesName (c : Char) : Bool := startsName c || c.isDigit || c == '$'

inductive Scan where
  | gap (length : Nat)
  | token (t : Token) (length : Nat)
  | illegal (length : Nat)

def commentLength : List Char → Nat
  | [] => 0
  | '*' :: '/' :: _ => 2
  | _ :: rest => 1 + commentLength rest

def blob (rest : List Char) : Scan :=
  let (inside, after) := rest.span (· != '\'')
  match Text.Hex.octets? inside, after with
  | some octets, _ :: _ => .token (.blob octets) (inside.length + 3)
  | _, _ => .illegal (2 + inside.length + min 1 after.length)

def quotedWith (quote : Char) (make : String → Token) (rest : List Char) : Scan :=
  match Sql.Constant.quoted quote false rest with
  | some (s, after) => .token (make (String.ofList s)) (1 + rest.length - after.length)
  | none => .illegal (1 + rest.length)

def hexNumber (digits : List Char) : Value :=
  let n := Sql.Constant.value 16 digits
  .ofInt (if n < Bits.count 63 then n else Int.ofNat n - Bits.count 64)

def number (cs : List Char) : Scan :=
  let (t, rest) := match cs with
    | '0' :: 'x' :: rest =>
      let (digits, after) := rest.span Text.Hex.isDigit
      (hexNumber digits,after)
    | _ => match Numeral.scan cs with
      | some (n, after) => (n.toValue,after)
      | none => (.null,cs)
  let length := cs.length - rest.length
  let tail := (rest.takeWhile continuesName).length
  if tail = 0 then .token (.number t) length else .illegal (length + tail)

def symbols : List String :=
  ["->>", "||", "<<", "<=", "<>", ">=", ">>", "==", "!=", "->", "(", ")", ",", ";", "+", "-", "*",
    "/", "%", "=", "<", ">", "&", "|", "~", "."]

def symbol (cs : List Char) : Scan :=
  match symbols.find? (·.toList.isPrefixOf cs) with
  | some s => .token (.symbol s) s.length
  | none => .illegal 1

def word (cs : List Char) : Scan :=
  let name := cs.takeWhile continuesName
  .token (.word (String.ofList (name.map Char.toUpper))) name.length

def next : List Char → Scan
  | [] => .gap 1
  | c :: rest =>
    if isSpace c then .gap 1
    else if (c == 'x' || c == 'X') && rest.head? == some '\'' then blob (rest.drop 1)
    else if startsName c then word (c :: rest)
    else if c.isDigit || (c == '.' && rest.head?.any Char.isDigit) then number (c :: rest)
    else match c, rest with
      | '\'', rest => quotedWith '\'' .text rest
      | '"', rest => quotedWith '"' (.quoted · true) rest
      | '\x60', rest => quotedWith '\x60' (.quoted · false) rest
      | '[', rest =>
        let inside := rest.takeWhile (· != ']')
        if inside.length = rest.length then .illegal (1 + rest.length)
        else .token (.quoted (String.ofList inside) false) (inside.length + 2)
      | '-', '-' :: rest => .gap (2 + (rest.takeWhile (· != '\n')).length)
      | '/', '*' :: rest => .gap (2 + commentLength rest)
      | '?', rest => .token .parameter (1 + (rest.takeWhile Char.isDigit).length)
      | c, rest =>
        if c == ':' || c == '@' || c == '$' then
          let name := rest.takeWhile continuesName
          if name.isEmpty then .illegal 1 else .token .parameter (1 + name.length)
        else symbol (c :: rest)

def lexemesFrom : (steps : Nat) → (start : Nat) → List Char → List Lexeme × Option String
  | 0, _, _ => ([],none)
  | _ + 1, _, [] => ([],none)
  | steps + 1, start, cs => match next cs with
    | .gap length => lexemesFrom steps (start + length) (cs.drop length)
    | .token t length =>
      let (rest, fault) := lexemesFrom steps (start + length) (cs.drop length)
      (⟨t,String.ofList (cs.take length),start⟩ :: rest,fault)
    | .illegal length => ([],some (String.ofList (cs.take length)))

end Lexer

def lexemes (text : List Char) : List Lexeme × Option String :=
  Lexer.lexemesFrom text.length 0 text

example : ((lexemes "a -- b\n.1".toList).1.map (·.token)) =
    [.word "A", .number (.real (.ofDecimal false 1 (-1)))] := by decide +kernel

end Querent.Sqlite
