import Querent.Text.Case

/-! The words of SQL. A word keeps the spelling by which it is compared with keywords; a quoted word
is no keyword. -/
namespace Querent.Sql

structure Word where
  text : String
  quote : Option Char
  key : String
  deriving DecidableEq, Repr

namespace Word

def bare (cs : List Char) : Word := ⟨String.ofList cs,none,String.ofList (Text.upperAscii cs)⟩

def quoted (quote : Char) (cs : List Char) : Word := ⟨String.ofList cs,some quote,""⟩

end Word

inductive Quoted where
  | plain
  | double
  | national
  | escaped
  | unicode
  | bytes
  | hex
  | dollar
  deriving DecidableEq, Repr

inductive Token where
  | word (w : Word)
  | number (digits : String)
  | constant (kind : Quoted) (text : String)
  | parameter (name : String)
  | symbol (spelling : String)
  | stray (c : Char)
  deriving DecidableEq, Repr

structure Lexeme where
  token : Token
  spaced : Bool
  deriving DecidableEq, Repr

end Querent.Sql
