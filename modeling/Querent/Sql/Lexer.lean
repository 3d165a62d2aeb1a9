import Querent.Sql.Constant
import Querent.Sql.Symbol
import Querent.Text.Blank

/-! Splitting a text into tokens, as one of the dialects reads it. Blanks and comments are left out;
of a comment with a mark, one dialect reads what is inside. -/
namespace Querent.Sql

inductive Last where
  | word
  | period
  | other
  deriving DecidableEq, Repr

def Last.of : Token → Last
  | .word _ => .word
  | .symbol s => if s = "." then .period else .other
  | _ => .other

inductive Scan where
  | blank (rest : List Char)
  | hint (content rest : List Char)
  | token (t : Token) (rest : List Char)
  deriving DecidableEq, Repr

namespace Scan

def name (d : Dialect) (first : List Char) (cs : List Char) : Scan :=
  let (more, rest) := cs.span d.continuesName
  .token (.word (.bare (first ++ more))) rest

def constant (kind : Quoted) (r : Option (List Char × List Char)) : Option Scan :=
  r.map fun (s, rest) => .token (.constant kind (String.ofList s)) rest

def line (d : Dialect) (cs : List Char) : Scan :=
  .blank ((cs.dropWhile fun c => c != '\n' && !(d.isPostgres && c == '\r')).drop 1)

def comment (nested : Bool) : (depth : Nat) → List Char → Option (List Char × List Char)
  | _, [] => none
  | _, [_] => none
  | depth, '*' :: '/' :: rest => match depth with
    | 0 => some ([],rest)
    | depth + 1 => (comment nested depth rest).map fun (s, after) => ('*' :: '/' :: s,after)
  | depth, '/' :: '*' :: rest =>
    if nested then (comment nested (depth + 1) rest).map fun (s, after) => ('/' :: '*' :: s,after)
    else (comment nested depth ('*' :: rest)).map fun (s, after) => ('/' :: s,after)
  | depth, c :: d :: rest => (comment nested depth (d :: rest)).map fun (s, after) => (c :: s,after)

def block (d : Dialect) (cs : List Char) : Option Scan := do
  let (content, rest) ← comment d.isPostgres 0 cs
  match d, content with
  | .mysql, '!' :: marked => some (.hint (marked.dropWhile Char.isDigit) rest)
  | _, _ => some (.blank rest)

def number (d : Dialect) (last : Last) (cs : List Char) : Option Scan :=
  let digits := Constant.digits d.isPostgres
  let (whole, rest) := digits Char.isDigit cs
  match whole, rest with
  | ['0'], 'x' :: rest =>
    let (taken, after) := digits Text.Hex.isDigit rest
    some (.token (.constant .hex (String.ofList taken)) after)
  | [], '.' :: '_' :: _ => if last = .word then some (.token (.symbol ".") (rest.drop 1)) else none
  | whole, rest =>
    let (point, rest) := Constant.takeUpTo (· == '.') 1 rest
    if whole.isEmpty && d.isMySql && last = .word then some (.token (.symbol ".") rest)
    else
      let (fraction, rest) := digits Char.isDigit rest
      if whole.isEmpty && fraction.isEmpty then some (.token (.symbol ".") rest)
      else
        let mantissa := whole ++ point ++ fraction
        let letter := rest.head?.any fun c => c == 'e' || c == 'E'
        let (exponent, rest) := (Constant.exponent rest).getD ([],rest)
        let (tail, after) := rest.span d.continuesName
        if d.isMySql && !letter && !tail.isEmpty then
          some (.token (.word (.bare (mantissa ++ tail))) after)
        else if d.isMySql && letter && last = .period then
          some (.token (.word (.bare (mantissa ++ exponent))) rest)
        else
          let after := if rest.head? = some 'L' then rest.drop 1 else rest
          some (.token (.number (String.ofList (mantissa ++ exponent))) after)

def symbol (d : Dialect) (cs : List Char) : Option Scan :=
  match d.symbol? cs, cs with
  | some found, _ => found.map fun (spelling, rest) => .token (.symbol spelling) rest
  | none, c :: rest =>
    some (if Text.isBlank c then .blank rest else .token (.stray c) rest)
  | none, [] => none

def lettered (d : Dialect) (c : Char) (rest : List Char) : Option Scan :=
  match c.toLower, rest with
  | 'b', '\'' :: rest => constant .bytes (Constant.quoted '\'' false rest)
  | 'b', '"' :: rest => constant .bytes (Constant.quoted '"' false rest)
  | 'n', '\'' :: rest => constant .national (Constant.quoted '\'' d.isMySql rest)
  | 'x', '\'' :: rest => constant .hex (Constant.quoted '\'' true rest)
  | 'e', '\'' :: rest =>
    if d.isPostgres then constant .escaped (Constant.escaped rest) else some (name d [c] ('\'' :: rest))
  | 'u', '&' :: '\'' :: rest =>
    if d.isPostgres then constant .unicode (Constant.unicode rest)
    else some (name d [c] ('&' :: '\'' :: rest))
  | _, rest => some (name d [c] rest)

def next (d : Dialect) (last : Last) : List Char → Option Scan
  | [] => none
  | c :: rest =>
    if d.startsName c then lettered d c rest
    else if c.isDigit || c == '.' then number d last (c :: rest)
    else if c == d.nameQuote then (Constant.quoted c false rest).map fun (s, after) =>
      .token (.word (.quoted c s)) after
    else match c, rest with
      | '\'', rest => constant .plain (Constant.quoted '\'' d.isMySql rest)
      | '"', rest => constant .double (Constant.quoted '"' true rest)
      | '$', rest => (Constant.dollar rest).map fun (t, after) => .token t after
      | '/', '*' :: rest => block d rest
      | '-', '-' :: rest =>
        if d.isPostgres || rest.head?.any Text.isBlank then some (line d rest)
        else some (.token (.symbol "-") ('-' :: rest))
      | '#', rest => if d.isMySql then some (line d rest) else symbol d ('#' :: rest)
      | '?', rest =>
        if d.isMySql then
          let (digits, after) := rest.span Char.isDigit
          some (.token (.parameter (String.ofList ('?' :: digits))) after)
        else symbol d ('?' :: rest)
      | c, rest => symbol d (c :: rest)

end Scan

/-- The tokens of a text. Each step takes a character at least, so that as many steps as there are
characters are enough; inside a hint there are no further hints. -/
def lexemesFrom (d : Dialect) (hints : Bool) :
    (steps : Nat) → Last → (spaced : Bool) → List Char → Option (List Lexeme)
  | 0, _, _, cs => if cs.isEmpty then some [] else none
  | _ + 1, _, _, [] => some []
  | n + 1, last, spaced, cs => do
    match ← Scan.next d last cs with
    | .blank rest => lexemesFrom d hints n .other true rest
    | .token t rest => (lexemesFrom d hints n (.of t) false rest).map (⟨t,spaced⟩ :: ·)
    | .hint content rest =>
      if hints then
        let inside ← lexemesFrom d false n last spaced content
        (lexemesFrom d hints n .other true rest).map (inside ++ ·)
      else lexemesFrom d hints n .other true rest

def lexemes (d : Dialect) (s : String) : Option (List Lexeme) :=
  lexemesFrom d true s.length .other false s.toList

example : lexemes .postgres "a.b" = some [⟨.word (.bare ['a']),false⟩, ⟨.symbol ".",false⟩,
    ⟨.word (.bare ['b']),false⟩] := by decide +kernel

end Querent.Sql
