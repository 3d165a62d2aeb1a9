import Querent.Sql.Dialect

/-! Symbols. The longest symbol of the dialect that the text starts with is taken; where operators
can be defined by users, some symbols go on as long as operator characters follow. -/
namespace Querent.Sql

inductive Ending where
  | closed
  | opened
  | unfinished
  deriving DecidableEq, Repr

def symbols : List (String × Ending) :=
  [("(",.closed), (")",.closed), ("[",.closed), ("]",.closed), ("\x7b",.closed), ("\x7d",.closed),
    (",",.closed), (";",.closed), (":",.closed), ("::",.closed), (":=",.closed), ("\\",.closed),
    ("+",.closed), ("*",.closed), ("/",.closed), ("^",.closed), ("^@",.closed),
    ("=",.closed), ("==",.closed), ("=>",.closed),
    ("!",.closed), ("!=",.closed), ("!!",.closed), ("!~",.closed), ("!~*",.closed), ("!~~",.closed),
    ("!~~*",.closed),
    ("-",.opened), ("->",.opened), ("->>",.opened), ("%",.opened),
    ("|",.opened), ("|/",.opened), ("||",.opened), ("||/",.opened),
    ("<",.opened), ("<=",.opened), ("<=>",.opened), ("<>",.opened), ("<<",.opened), ("<@",.opened),
    (">",.opened), (">=",.opened), (">>",.opened), ("&",.opened), ("&&",.opened),
    ("~",.opened), ("~*",.opened), ("~~",.opened), ("~~*",.opened)]

def furtherSymbols : List (String × Ending) :=
  [("|&",.unfinished), ("|&>",.opened), ("|>",.unfinished), ("|>>",.opened),
    ("<<|",.opened), ("<-",.unfinished), ("<->",.opened), ("<^",.opened), (">^",.opened),
    ("&>",.opened), ("&<",.opened), ("&<|",.opened), ("~=",.opened),
    ("#",.opened), ("#-",.opened), ("#>",.opened), ("#>>",.opened), ("##",.opened),
    ("@",.closed), ("@@",.closed), ("@-",.unfinished), ("@-@",.closed), ("@>",.closed),
    ("@?",.closed), ("?",.closed), ("?|",.closed), ("?||",.closed), ("?&",.closed), ("?-",.closed),
    ("?-|",.closed), ("?#",.closed)]

namespace Dialect

def symbols : Dialect → List (String × Ending)
  | .postgres => Sql.symbols ++ furtherSymbols
  | .mysql => Sql.symbols

def isOperatorChar : Dialect → Char → Bool
  | .postgres, c => "+-*/<>=~!@#%^&|\x60?".toList.contains c
  | .mysql, _ => false

def longestSymbol (d : Dialect) (cs : List Char) : Option (String × Ending) :=
  d.symbols.foldl (fun best s =>
    if s.1.toList.isPrefixOf cs && best.all (fun b => b.1.length < s.1.length) then some s
    else best) none

def symbol? (d : Dialect) (cs : List Char) : Option (Option (String × List Char)) :=
  (d.longestSymbol cs).map fun (spelling, ending) =>
    let rest := cs.drop spelling.length
    let (more, after) := rest.span d.isOperatorChar
    match ending, more with
    | .closed, _ => some (spelling,rest)
    | .opened, more => some (spelling ++ String.ofList more,after)
    | .unfinished, [] => none
    | .unfinished, more => some (spelling ++ String.ofList more,after)

end Dialect
end Querent.Sql
