import Querent.Record.Fault
import Querent.Json.Printer

/-! Why a text is no JSON document of the shape asked for, and where in the text that shows. -/
namespace Querent.Json

inductive Problem where
  | unfinishedList
  | unfinishedObject
  | unfinishedString
  | unfinishedValue
  | noColon
  | noListSeparator
  | noObjectSeparator
  | badWord
  | noValue
  | badEscape
  | badNumber
  | numberRange
  | controlCharacter
  | keyNotText
  | loneSurrogate
  | trailingComma
  | trailingText
  | unfinishedPair
  | tooDeep
  | shape (fault : Record.Fault)
  deriving DecidableEq, Repr

def messages : Record.Notation := ⟨"null",realText⟩

def Problem.message : Problem → String
  | .unfinishedList => "EOF while parsing a list"
  | .unfinishedObject => "EOF while parsing an object"
  | .unfinishedString => "EOF while parsing a string"
  | .unfinishedValue => "EOF while parsing a value"
  | .noColon => "expected `:`"
  | .noListSeparator => "expected `,` or `]`"
  | .noObjectSeparator => "expected `,` or `\x7d`"
  | .badWord => "expected ident"
  | .noValue => "expected value"
  | .badEscape => "invalid escape"
  | .badNumber => "invalid number"
  | .numberRange => "number out of range"
  | .controlCharacter => "control character (\\u0000-\\u001F) found while parsing a string"
  | .keyNotText => "key must be a string"
  | .loneSurrogate => "lone leading surrogate in hex escape"
  | .trailingComma => "trailing comma"
  | .trailingText => "trailing characters"
  | .unfinishedPair => "unexpected end of hex escape"
  | .tooDeep => "recursion limit exceeded"
  | .shape fault => fault.message messages

structure Fault where
  problem : Problem
  rest : List Char
  ahead : Nat
  deriving DecidableEq, Repr

structure Position where
  line : Nat
  column : Nat
  deriving DecidableEq, Repr

def Position.start : Position := ⟨1,0⟩

def Position.after (p : Position) (c : Char) : Position :=
  if c = '\n' then ⟨p.line + 1,0⟩ else ⟨p.line,p.column + c.utf8Size⟩

def Position.ahead (p : Position) : (octets : Nat) → List Char → Position
  | 0, _ => p
  | _, [] => p
  | octets, c :: rest =>
    if c.utf8Size ≤ octets then (p.after c).ahead (octets - c.utf8Size) rest
    else ⟨p.line,p.column + octets⟩

def Fault.position (fault : Fault) (text : List Char) : Position :=
  let read := text.take (text.length - fault.rest.length)
  (read.foldl Position.after .start).ahead fault.ahead fault.rest

def Fault.message (fault : Fault) (text : List Char) : String :=
  let p := fault.position text
  fault.problem.message ++ " at line " ++ toString p.line ++ " column " ++ toString p.column

end Querent.Json
