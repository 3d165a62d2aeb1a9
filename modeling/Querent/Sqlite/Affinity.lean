import Querent.Sqlite.Numeral

/-! The affinity of a column: the kind of value that it prefers, given by the type that it was
declared with. -/
namespace Querent.Sqlite

inductive Affinity where
  | integer
  | text
  | none
  | real
  | numeric
  deriving DecidableEq, Repr

namespace Affinity

def holdsPart (part : List Char) : List Char → Bool
  | [] => part.isEmpty
  | c :: rest => part.isPrefixOf (c :: rest) || holdsPart part rest

def ofDeclared (declared : String) : Affinity :=
  let type := declared.toList.map Char.toUpper
  let has (part : String) := holdsPart part.toList type
  if has "INT" then .integer
  else if has "CHAR" || has "CLOB" || has "TEXT" then .text
  else if type.isEmpty || has "BLOB" then .none
  else if has "REAL" || has "FLOA" || has "DOUB" then .real
  else .numeric

def isNumeric : Affinity → Bool
  | .integer => true
  | .real => true
  | .numeric => true
  | _ => false

def toNumeric : Value → Value
  | .text s => match numeralOf? s with
    | some n => match n.toValue with
      | .real x => integral x
      | v => v
    | Option.none => .text s
  | v => v

def store (a : Affinity) (v : Value) : Value :=
  match a with
  | .none => v
  | .text => match v with
    | .integer _ => .text v.toText
    | .real _ => .text v.toText
    | v => v
  | .real => match toNumeric v with
    | .integer i => .real (.ofInt i)
    | v => v
  | _ => match toNumeric v with
    | .real x => integral x
    | v => v

def meet (a b : Affinity) (x y : Value) : Value × Value :=
  if a.isNumeric && !b.isNumeric then (x,toNumeric y)
  else if b.isNumeric && !a.isNumeric then (toNumeric x,y)
  else if a = .text && b = .none then (x,store .text y)
  else if b = .text && a = .none then (store .text x,y)
  else (x,y)

example : ofDeclared "VARCHAR(10)" = .text := by decide +kernel
example : ofDeclared "Weird Type(1, 2)" = .numeric := by decide +kernel
example : store .numeric (.text "7") = .integer 7 := by decide +kernel
example : store .integer (.real (.ofDecimal false 15 (-1))) = .real (.ofDecimal false 15 (-1)) := by
  decide +kernel

end Affinity
end Querent.Sqlite
