/-! What SQLite reports instead of rows. -/
namespace Querent.Sqlite

inductive Fault where
  | near (token : String)
  | incomplete
  | unrecognized (token : String)
  | noTable (name : String)
  | tableExists (name : String)
  | noColumn (name : String)
  | ambiguous (name : String)
  | noFunction (name : String)
  | notFunction (name : String)
  | argumentCount (function : String)
  | misuse (function : String)
  | noTablesGiven
  | subqueryColumns (count : Nat)
  | unionColumns (operator : String)
  | valuesColumns
  | termRange (place : Nat) (clause : String) (count : Nat)
  | termUnmatched (place : Nat) (clause : String)
  | integerOverflow
  | readOnly
  | cannotOpen
  | noDriver (name : String)
  deriving DecidableEq, Repr

namespace Fault

def code : Fault → Nat
  | .readOnly => 8
  | .cannotOpen => 14
  | _ => 1

def ordinal (n : Nat) : String :=
  let ending := if 10 < n % 100 ∧ n % 100 < 14 then "th"
    else match n % 10 with
      | 1 => "st"
      | 2 => "nd"
      | 3 => "rd"
      | _ => "th"
  toString n ++ ending

def text : Fault → String
  | .near token => "near \"" ++ token ++ "\": syntax error"
  | .incomplete => "incomplete input"
  | .unrecognized token => "unrecognized token: \"" ++ token ++ "\""
  | .noTable name => "no such table: " ++ name
  | .tableExists name => "table " ++ name ++ " already exists"
  | .noColumn name => "no such column: " ++ name
  | .ambiguous name => "ambiguous column name: " ++ name
  | .noFunction name => "no such function: " ++ name
  | .notFunction name => "'" ++ name ++ "' is not a function"
  | .argumentCount function => "wrong number of arguments to function " ++ function ++ "()"
  | .misuse function => "misuse of aggregate: " ++ function ++ "()"
  | .noTablesGiven => "no tables specified"
  | .subqueryColumns count =>
    "sub-select returns " ++ toString count ++ " columns - expected 1"
  | .unionColumns operator =>
    "SELECTs to the left and right of " ++ operator ++ " do not have the same number of result columns"
  | .valuesColumns => "all VALUES must have the same number of terms"
  | .termRange place clause count =>
    ordinal place ++ " " ++ clause ++ " term out of range - should be between 1 and " ++ toString count
  | .termUnmatched place clause =>
    ordinal place ++ " " ++ clause ++ " term does not match any column in the result set"
  | .integerOverflow => "integer overflow"
  | .readOnly => "attempt to write a readonly database"
  | .cannotOpen => "unable to open database file"
  | .noDriver name => "no such vfs: " ++ name

def message (f : Fault) : String := "(code: " ++ toString f.code ++ ") " ++ f.text

end Fault
end Querent.Sqlite
