/-! Patterns of `LIKE`: an underscore is any character, a percent sign any characters, and ASCII letters
stand for both of their cases. -/
namespace Querent.Sqlite.Pattern

def someEnd (p : List Char → Bool) : List Char → Bool
  | [] => p []
  | c :: rest => p (c :: rest) || someEnd p rest

def fits : (pattern text : List Char) → Bool
  | [], text => text.isEmpty
  | '%' :: pattern, text => someEnd (fits pattern) text
  | '_' :: pattern, text => match text with
    | [] => false
    | _ :: rest => fits pattern rest
  | p :: pattern, text => match text with
    | [] => false
    | c :: rest => p.toLower == c.toLower && fits pattern rest

def isLike (pattern text : String) : Bool := fits pattern.toList text.toList

example : isLike "sqlite_%" "SQLite_sequence" = true := by decide +kernel
example : isLike "sqlite_%" "sqlite" = false := by decide +kernel
example : isLike "%a_" "banana" = false := by decide +kernel

end Querent.Sqlite.Pattern
