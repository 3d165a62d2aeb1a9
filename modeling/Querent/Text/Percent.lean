import Querent.Text.Hex
import Querent.Text.Split
import Querent.Text.Utf8

/-! Text with octets written as a percent sign and two hexadecimal digits, and lists of names and
values written with it. -/
namespace Querent.Text.Percent

def octets : List Char → Utf8.Octets
  | '%' :: a :: b :: rest => match Hex.value? a, Hex.value? b with
    | some high, some low => UInt8.ofNat (high * 16 + low) :: octets rest
    | _, _ => 0x25 :: octets (a :: b :: rest)
  | c :: rest => String.utf8EncodeChar c ++ octets rest
  | [] => []

def plain (cs : List Char) : String :=
  String.ofList (Utf8.lossy (octets (cs.map fun c => if c = '+' then ' ' else c)))

def parameters (cs : List Char) : List (String × String) :=
  ((split '&' cs).filter (!·.isEmpty)).map fun part =>
    let (name, value) := part.span (· != '=')
    (plain name,plain (value.drop 1))

example : parameters "a=b%20c&d".toList = [("a","b c"), ("d","")] := by decide +kernel

end Querent.Text.Percent
