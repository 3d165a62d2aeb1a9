import Querent.Sql.Dialect

/-! How tightly operators bind. The dialects order the levels differently. -/
namespace Querent.Sql

inductive Level where
  | or | and | not | is | like | between | equal | pipe | caret | ampersand | xor | sum | product
  | zone
  | collate
  | subscript
  | cast
  | other
  deriving DecidableEq, Repr

namespace Dialect

def tightness : Dialect → Level → Nat
  | .postgres, .or => 10
  | .postgres, .and => 20
  | .postgres, .not => 30
  | .postgres, .is => 40
  | .postgres, .equal => 50
  | .postgres, .like => 60
  | .postgres, .between => 60
  | .postgres, .other => 70
  | .postgres, .pipe => 70
  | .postgres, .ampersand => 70
  | .postgres, .xor => 75
  | .postgres, .sum => 80
  | .postgres, .product => 90
  | .postgres, .caret => 100
  | .postgres, .zone => 110
  | .postgres, .collate => 120
  | .postgres, .subscript => 130
  | .postgres, .cast => 140
  | .mysql, .or => 5
  | .mysql, .and => 10
  | .mysql, .not => 15
  | .mysql, .other => 16
  | .mysql, .is => 17
  | .mysql, .like => 19
  | .mysql, .between => 20
  | .mysql, .equal => 20
  | .mysql, .pipe => 21
  | .mysql, .caret => 22
  | .mysql, .ampersand => 23
  | .mysql, .xor => 24
  | .mysql, .sum => 30
  | .mysql, .product => 40
  | .mysql, .zone => 41
  | .mysql, .collate => 42
  | .mysql, .subscript => 50
  | .mysql, .cast => 50

def comparisons : List String := ["=", "==", "<>", "!=", "<", "<=", ">", ">=", "<=>"]

def patternOperators : List String := ["~", "~*", "!~", "!~*", "~~", "~~*", "!~~", "!~~*"]

def documentOperators : List String :=
  ["->", "->>", "#>", "#>>", "@>", "<@", "#-", "@?", "@@", "?", "?&", "?|"]

def shapeOperators : List String :=
  ["?-", "##", "&<", "&>", "<->", "<<|", "&<|", "|>>", "|&>", "<^", ">^", "?#", "?-|", "?||", "~=",
    "@-@"]

def symbolLevel? (d : Dialect) (s : String) : Option Level :=
  if comparisons.contains s || patternOperators.contains s || s == ":=" then some .equal
  else if s == "+" || s == "-" then some .sum
  else if s == "*" || s == "/" || s == "%" then some .product
  else if s == "||" then some (if d.isPostgres then .other else .product)
  else if s == "|" then some .pipe
  else if s == "^" then some .caret
  else if s == "&" then some .ampersand
  else if s == "&&" then some (if d.isPostgres then .other else .pipe)
  else if s == "::" then some .cast
  else if s == "[" then some .subscript
  else if s == "!" || s == "^@" then some (if d.isPostgres then .other else .cast)
  else if s == "#" || s == "<<" || s == ">>" then some (if d.isPostgres then .other else .caret)
  else if documentOperators.contains s then some .other
  else if shapeOperators.contains s then some .pipe
  else if ["(", ")", "]", "\x7b", "\x7d", ",", ";", ":", "\\", ".", "=>", "!!", "|/", "||/",
      "@"].contains s then none
  else some .other

end Dialect
end Querent.Sql
