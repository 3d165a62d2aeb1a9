import Querent.Json.Basic
import Querent.Binary.Shortest
import Querent.Text.Hex

/-! JSON text: no blanks, members in order, and in a string only the quote, the backslash and the
control characters are escaped. -/
namespace Querent.Json

def reals : Binary.Layout := ⟨-5,16⟩

def realText {f : Binary.Format} : Binary f → List Char
  | .finite negative mantissa exponent => Binary.writeFinite reals f negative mantissa exponent
  | _ => ['n','u','l','l']

def intText (i : Int) : List Char :=
  if i < 0 then '-' :: Nat.toDigits 10 i.natAbs else Nat.toDigits 10 i.natAbs

def Number.render : Number → List Char
  | .integer i => intText i
  | .real x => realText x

def escape (c : Char) : List Char :=
  if c = '"' then ['\\','"']
  else if c = '\\' then ['\\','\\']
  else if c = '\x08' then ['\\','b']
  else if c = '\t' then ['\\','t']
  else if c = '\n' then ['\\','n']
  else if c = '\x0c' then ['\\','f']
  else if c = '\r' then ['\\','r']
  else if c.toNat < 32 then ['\\','u','0','0',Text.Hex.digit (c.toNat / 16),Text.Hex.digit (c.toNat % 16)]
  else [c]

def quote (cs : List Char) : List Char := '"' :: cs.flatMap escape ++ ['"']

def renderText (s : String) : List Char := quote s.toList

mutual
def render : Json → List Char
  | .null => ['n','u','l','l']
  | .bool true => ['t','r','u','e']
  | .bool false => ['f','a','l','s','e']
  | .number n => n.render
  | .text s => renderText s
  | .array xs => '[' :: renderElements xs
  | .object ms => '\x7b' :: renderMembers ms

def renderElements : List Json → List Char
  | [] => [']']
  | [x] => render x ++ [']']
  | x :: y :: rest => render x ++ ',' :: renderElements (y :: rest)

def renderMembers : List (String × Json) → List Char
  | [] => ['\x7d']
  | [(name, v)] => renderText name ++ ':' :: render v ++ ['\x7d']
  | (name, v) :: m :: rest => renderText name ++ ':' :: render v ++ ',' :: renderMembers (m :: rest)
end

def toText (j : Json) : String := String.ofList j.render

example : (Json.array [.nat 1, .text "a\n", .object [("k",.double (.ofDecimal false 1 (-7)))]]).toText
    = "[1,\"a\\n\",\x7b\"k\":1e-7\x7d]" := by decide +kernel

end Querent.Json
