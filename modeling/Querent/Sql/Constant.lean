import Querent.Sql.Token
import Querent.Text.Quoted

/-! Constants: text in quotes with its escapes, text between dollar tags, and numbers. Each reader
takes what stands behind the opening mark and gives the text and what follows the closing one. -/
namespace Querent.Sql.Constant

def unescaped (c : Char) : List Char :=
  match c with
  | '0' => ['\x00'] | 'a' => ['\x07'] | 'b' => ['\x08'] | 'f' => ['\x0c']
  | 'n' => ['\n'] | 'r' => ['\r'] | 't' => ['\t'] | 'Z' => ['\x1a']
  | '%' => ['\\','%'] | '_' => ['\\','_']
  | c => [c]

def quoted (quote : Char) (escapes : Bool) : List Char → Option (List Char × List Char)
  | [] => none
  | [c] => if c = quote then some ([],[]) else none
  | c :: d :: rest =>
    if c = quote then
      if d = quote then (quoted quote escapes rest).map fun (s, after) => (c :: s,after)
      else some ([],d :: rest)
    else if c = '\\' && escapes then
      (quoted quote escapes rest).map fun (s, after) => (unescaped d ++ s,after)
    else (quoted quote escapes (d :: rest)).map fun (s, after) => (c :: s,after)

def isOctal (c : Char) : Bool := '0' ≤ c && c ≤ '7'

def value (base : Nat) (digits : List Char) : Nat :=
  digits.foldl (fun n c => n * base + (Text.Hex.value? c).getD 0) 0

def scalar? (n : Nat) : Option Char := if n.isValidChar then some (Char.ofNat n) else none

def ascii? (n : Nat) : Option Char := if 0 < n && n < 128 then some (Char.ofNat n) else none

def takeUpTo (p : Char → Bool) : Nat → List Char → List Char × List Char
  | n + 1, c :: rest =>
    if p c then let (taken, after) := takeUpTo p n rest; (c :: taken,after) else ([],c :: rest)
  | _, cs => ([],cs)

def codePoint? (digits : Nat) (cs : List Char) : Option (Char × List Char) :=
  let (taken, after) := takeUpTo Text.Hex.isDigit digits cs
  if taken.length = digits then (scalar? (value 16 taken)).map (·,after) else none

def escape? : List Char → Option (Char × List Char)
  | [] => none
  | 'b' :: rest => some ('\x08',rest)
  | 'f' :: rest => some ('\x0c',rest)
  | 'n' :: rest => some ('\n',rest)
  | 'r' :: rest => some ('\r',rest)
  | 't' :: rest => some ('\t',rest)
  | 'u' :: rest => codePoint? 4 rest
  | 'U' :: rest => codePoint? 8 rest
  | 'x' :: rest =>
    let (taken, after) := takeUpTo Text.Hex.isDigit 2 rest
    if taken.isEmpty then some ('x',rest) else (ascii? (value 16 taken)).map (·,after)
  | c :: rest =>
    if isOctal c then
      let (taken, after) := takeUpTo isOctal 3 (c :: rest)
      (ascii? (value 8 taken)).map (·,after)
    else some (c,rest)

def unicodeEscape? : List Char → Option (Char × List Char)
  | '\\' :: rest => some ('\\',rest)
  | '+' :: rest => codePoint? 6 rest
  | rest => codePoint? 4 rest

def escapedBy (escape? : List Char → Option (Char × List Char)) :
    Nat → List Char → Option (List Char × List Char)
  | 0, _ => none
  | _, [] => none
  | n + 1, '\'' :: '\'' :: rest =>
    (escapedBy escape? n rest).map fun (s, after) => ('\'' :: s,after)
  | _ + 1, '\'' :: rest => some ([],rest)
  | n + 1, '\\' :: rest => do
    let (c, rest) ← escape? rest
    let (s, after) ← escapedBy escape? n rest
    some (c :: s,after)
  | n + 1, c :: rest => (escapedBy escape? n rest).map fun (s, after) => (c :: s,after)

def escaped (cs : List Char) : Option (List Char × List Char) := escapedBy escape? cs.length cs

def unicode (cs : List Char) : Option (List Char × List Char) :=
  escapedBy unicodeEscape? cs.length cs

def upTo (mark : List Char) : List Char → Option (List Char × List Char)
  | [] => none
  | c :: rest =>
    if mark.isPrefixOf (c :: rest) then some ([],(c :: rest).drop mark.length)
    else (upTo mark rest).map fun (s, after) => (c :: s,after)

def dollar (cs : List Char) : Option (Token × List Char) :=
  let (tag, rest) := cs.span fun c => c.isAlphanum || c == '_' || 128 ≤ c.toNat
  match rest with
  | '$' :: body => (upTo ('$' :: tag ++ ['$']) body).map fun (s, after) =>
      (.constant .dollar (String.ofList s),after)
  | rest => some (.parameter (String.ofList ('$' :: tag)),rest)

def digits (separates : Bool) (isDigit : Char → Bool) : List Char → List Char × List Char
  | [] => ([],[])
  | c :: rest =>
    if isDigit c || (separates && c == '_' && rest.head?.any Text.Hex.isDigit) then
      let (taken, after) := digits separates isDigit rest
      (c :: taken,after)
    else ([],c :: rest)

def exponent : List Char → Option (List Char × List Char)
  | e :: rest =>
    if e = 'e' || e = 'E' then
      let (sign, rest) := takeUpTo (fun c => c == '+' || c == '-') 1 rest
      match rest.span Char.isDigit with
      | ([], _) => none
      | (taken, after) => some (e :: sign ++ taken,after)
    else none
  | [] => none

end Querent.Sql.Constant
