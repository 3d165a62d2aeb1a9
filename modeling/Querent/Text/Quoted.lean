import Querent.Text.Hex
import Querent.Text.ShownTable

/-! Quoted text for messages: quotes, backslashes and some controls are written with a backslash,
and characters that would not be seen by their code points. -/
namespace Querent.Text.Quoted

def hexDigits (n : Nat) : List Char :=
  if _h : n < 16 then [Hex.digit n] else hexDigits (n / 16) ++ [Hex.digit (n % 16)]
termination_by n
decreasing_by omega

def codePoint (c : Char) : List Char := ['\\', 'u', '\x7b'] ++ hexDigits c.toNat ++ ['\x7d']

def encodeChar (c : Char) : List Char :=
  match c with
  | '\x00' => ['\\', '0']
  | '\t' => ['\\', 't']
  | '\r' => ['\\', 'r']
  | '\n' => ['\\', 'n']
  | '"' => ['\\', '"']
  | '\\' => ['\\', '\\']
  | c => if within extendingSpans c || within unshownSpans c then codePoint c else [c]

def encode (cs : List Char) : List Char := '"' :: cs.flatMap encodeChar ++ ['"']

def quoted (s : String) : String := String.ofList (encode s.toList)

end Querent.Text.Quoted
