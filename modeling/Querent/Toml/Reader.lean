import Querent.Bits
import Querent.Toml.Basic
import Querent.Json.Reader

/-! Reading TOML. A text that does not follow the grammar, or defines a name twice, is refused as a
whole. -/
namespace Querent.Toml

abbrev Reader (α : Type) := List Char → Option (α × List Char)

namespace Reader

def isGap (c : Char) : Bool := c == ' ' || c == '\t'

def gaps (cs : List Char) : List Char := cs.dropWhile isGap

def expect (c : Char) : List Char → Option (List Char)
  | d :: rest => if d = c then some rest else none
  | [] => none

def isPlain (c : Char) : Bool := c == '\t' || (32 ≤ c.toNat && c.toNat ≠ 127)

def lineBreak? : List Char → Option (List Char)
  | '\n' :: rest => some rest
  | '\r' :: '\n' :: rest => some rest
  | _ => none

def comment : List Char → List Char
  | '#' :: rest => rest.dropWhile isPlain
  | cs => cs

def lines : (fuel : Nat) → List Char → List Char
  | 0, cs => cs
  | fuel + 1, cs =>
    let cs := comment (gaps cs)
    match lineBreak? cs with
    | some rest => lines fuel rest
    | none => cs

def anyLines (cs : List Char) : List Char := lines (cs.length + 1) cs

def hexDigits (count : Nat) : Reader Char := fun cs =>
  let digits := (cs.take count).filterMap Text.Hex.value?
  let n := digits.foldl (fun n d => n * 16 + d) 0
  if digits.length = count ∧ n.isValidChar then some (Char.ofNat n,cs.drop count) else none

def escaped : Reader Char
  | 'b' :: rest => some ('\x08',rest)
  | 't' :: rest => some ('\t',rest)
  | 'n' :: rest => some ('\n',rest)
  | 'f' :: rest => some ('\x0c',rest)
  | 'r' :: rest => some ('\r',rest)
  | 'e' :: rest => some ('\x1b',rest)
  | '"' :: rest => some ('"',rest)
  | '\\' :: rest => some ('\\',rest)
  | 'x' :: rest => hexDigits 2 rest
  | 'u' :: rest => hexDigits 4 rest
  | 'U' :: rest => hexDigits 8 rest
  | _ => none

def basic : (fuel : Nat) → Reader (List Char)
  | 0, _ => none
  | _ + 1, [] => none
  | fuel + 1, c :: cs =>
    if c = '"' then some ([],cs)
    else if c = '\\' then do
      let (d, cs) ← escaped cs
      let (ds, cs) ← basic fuel cs
      some (d :: ds,cs)
    else if isPlain c then do
      let (ds, cs) ← basic fuel cs
      some (c :: ds,cs)
    else none

def literal : Reader (List Char)
  | [] => none
  | c :: cs =>
    if c = '\'' then some ([],cs)
    else if isPlain c then do
      let (ds, cs) ← literal cs
      some (c :: ds,cs)
    else none

def closing (quote : Char) (cs : List Char) : Option (List Char × List Char) :=
  let quotes := (cs.take 5).takeWhile (· == quote)
  if 3 ≤ quotes.length then some (quotes.drop 3,cs.drop quotes.length) else none

def basicLines : (fuel : Nat) → Reader (List Char)
  | 0, _ => none
  | _ + 1, [] => none
  | fuel + 1, c :: cs =>
    if c = '"' then match closing '"' (c :: cs) with
      | some (tail, rest) => some (tail,rest)
      | none => do
        let (ds, cs) ← basicLines fuel cs
        some (c :: ds,cs)
    else if c = '\\' then match lineBreak? (gaps cs) with
      | some rest => basicLines fuel (rest.dropWhile fun c => isGap c || c == '\n' || c == '\r')
      | none => do
        let (d, cs) ← escaped cs
        let (ds, cs) ← basicLines fuel cs
        some (d :: ds,cs)
    else match lineBreak? (c :: cs) with
      | some rest => do
        let (ds, cs) ← basicLines fuel rest
        some ('\n' :: ds,cs)
      | none =>
        if isPlain c then do
          let (ds, cs) ← basicLines fuel cs
          some (c :: ds,cs)
        else none

def literalLines : (fuel : Nat) → Reader (List Char)
  | 0, _ => none
  | _ + 1, [] => none
  | fuel + 1, c :: cs =>
    if c = '\'' then match closing '\'' (c :: cs) with
      | some (tail, rest) => some (tail,rest)
      | none => do
        let (ds, cs) ← literalLines fuel cs
        some (c :: ds,cs)
    else match lineBreak? (c :: cs) with
      | some rest => do
        let (ds, cs) ← literalLines fuel rest
        some ('\n' :: ds,cs)
      | none =>
        if isPlain c then do
          let (ds, cs) ← literalLines fuel cs
          some (c :: ds,cs)
        else none

def afterBreak (cs : List Char) : List Char := (lineBreak? cs).getD cs

def string : Reader String
  | '"' :: '"' :: '"' :: rest =>
    (basicLines (rest.length + 1) (afterBreak rest)).map fun r => (String.ofList r.1,r.2)
  | '"' :: rest => (basic (rest.length + 1) rest).map fun r => (String.ofList r.1,r.2)
  | '\'' :: '\'' :: '\'' :: rest =>
    (literalLines (rest.length + 1) (afterBreak rest)).map fun r => (String.ofList r.1,r.2)
  | '\'' :: rest => (literal rest).map fun r => (String.ofList r.1,r.2)
  | _ => none

def isBare (c : Char) : Bool := c.isAlphanum || c == '_' || c == '-'

def keyPart : Reader String := fun cs =>
  match cs with
  | '"' :: rest => (basic (rest.length + 1) rest).map fun r => (String.ofList r.1,r.2)
  | '\'' :: rest => (literal rest).map fun r => (String.ofList r.1,r.2)
  | cs =>
    let (name, rest) := cs.span isBare
    if name.isEmpty then none else some (String.ofList name,rest)

def key : (fuel : Nat) → Reader (List String × String)
  | 0, _ => none
  | fuel + 1, cs => do
    let (part, cs) ← keyPart (gaps cs)
    match gaps cs with
    | '.' :: rest => do
      let ((path, name), rest) ← key fuel rest
      some ((part :: path,name),rest)
    | rest => some (([],part),rest)

def dottedKey (cs : List Char) : Option ((List String × String) × List Char) :=
  key (cs.length + 1) cs

def grouped (isDigit : Char → Bool) : List Char → Option (List Char)
  | [] => none
  | [c] => if isDigit c then some [c] else none
  | c :: '_' :: rest => if isDigit c then (grouped isDigit rest).map (c :: ·) else none
  | c :: rest => if isDigit c then (grouped isDigit rest).map (c :: ·) else none

def natOf (base : Nat) (digits : List Char) : Nat :=
  digits.foldl (fun n c => n * base + (Text.Hex.value? c).getD 0) 0

def isOctal (c : Char) : Bool := '0' ≤ c && c ≤ '7'

def isBinary (c : Char) : Bool := c == '0' || c == '1'

def decimalDigits (cs : List Char) : Option (List Char) :=
  match cs with
  | '0' :: _ :: _ => none
  | cs => grouped Char.isDigit cs

def splitSign : List Char → Bool × List Char
  | '-' :: rest => (true,rest)
  | '+' :: rest => (false,rest)
  | cs => (false,cs)

def integer? (cs : List Char) : Option Toml :=
  let within := fun (i : Int) => if -(Bits.count 127 : Int) ≤ i ∧ i < Bits.count 128 then some (.integer i) else none
  match cs with
  | '0' :: 'x' :: rest => (grouped Text.Hex.isDigit rest).bind fun ds => within (natOf 16 ds)
  | '0' :: 'o' :: rest => (grouped isOctal rest).bind fun ds => within (natOf 8 ds)
  | '0' :: 'b' :: rest => (grouped isBinary rest).bind fun ds => within (natOf 2 ds)
  | cs =>
    let (negative, digits) := splitSign cs
    (decimalDigits digits).bind fun ds =>
      within (if negative then -(Int.ofNat (natOf 10 ds)) else natOf 10 ds)

def exponent? (cs : List Char) : Option Int :=
  let (negative, digits) := splitSign cs
  (grouped Char.isDigit digits).map fun ds =>
    if negative then -(Int.ofNat (natOf 10 ds)) else natOf 10 ds

def real? (cs : List Char) : Option Toml := do
  let (negative, body) := splitSign cs
  if body = ['i','n','f'] then some (.real (.infinite negative))
  else if body = ['n','a','n'] then some (.real .nan)
  else
    let (mantissa, tail) := body.span fun c => c != 'e' && c != 'E'
    let (whole, fraction) := mantissa.span (· != '.')
    let ds ← decimalDigits whole
    let fs ← match fraction with
      | [] => some []
      | _ :: places => grouped Char.isDigit places
    let e ← match tail with
      | [] => if fraction.isEmpty then none else some 0
      | _ :: digits => exponent? digits
    let x : Double := .ofDecimal negative (natOf 10 (ds ++ fs)) (e - fs.length)
    if x.isInfinite then none else some (.real x)

def twoDigits (low high : Nat) : Reader Nat
  | a :: b :: rest =>
    let n := natOf 10 [a,b]
    if a.isDigit && b.isDigit && low ≤ n && n ≤ high then some (n,rest) else none
  | _ => none

def dayCount (year month : Nat) : Nat :=
  if month = 2 then (if (year % 4 = 0 ∧ year % 100 ≠ 0) ∨ year % 400 = 0 then 29 else 28)
  else if month = 4 ∨ month = 6 ∨ month = 9 ∨ month = 11 then 30
  else 31

def date : Reader Unit := fun cs => do
  let digits := cs.take 4
  if digits.length = 4 ∧ digits.all Char.isDigit then
    let (month, cs) ← twoDigits 1 12 (← expect '-' (cs.drop 4))
    let (_, cs) ← twoDigits 1 (dayCount (natOf 10 digits) month) (← expect '-' cs)
    some ((),cs)
  else none

def time : Reader Unit := fun cs => do
  let (_, cs) ← twoDigits 0 23 cs
  let (_, cs) ← twoDigits 0 59 (← expect ':' cs)
  match cs with
  | ':' :: rest =>
    let (_, rest) ← twoDigits 0 60 rest
    match rest with
    | '.' :: places =>
      if (places.takeWhile Char.isDigit).isEmpty then none
      else some ((),places.dropWhile Char.isDigit)
    | rest => some ((),rest)
  | rest => some ((),rest)

def offset : Reader Unit
  | 'Z' :: rest => some ((),rest)
  | 'z' :: rest => some ((),rest)
  | c :: rest =>
    if c = '+' ∨ c = '-' then do
      let (_, rest) ← twoDigits 0 23 rest
      let (_, rest) ← twoDigits 0 59 (← expect ':' rest)
      some ((),rest)
    else some ((),c :: rest)
  | [] => some ((),[])

def moment? (cs : List Char) : Option Toml :=
  let whole := fun (r : Option (Unit × List Char)) => match r with
    | some ((), []) => some Toml.moment
    | _ => none
  match date cs with
  | some ((), []) => some .moment
  | some ((), c :: rest) =>
    if c = 'T' ∨ c = 't' ∨ c = ' ' then whole ((time rest).bind fun r => offset r.2) else none
  | none => whole (time cs)

def isScalar (c : Char) : Bool :=
  c.isAlphanum || c == '_' || c == '-' || c == '+' || c == '.' || c == ':'

def scalarText (cs : List Char) : List Char × List Char :=
  let (first, rest) := cs.span isScalar
  match rest with
  | ' ' :: d :: more =>
    if d.isDigit && (date first) == some ((),[]) then
      let (second, rest) := (d :: more).span isScalar
      (first ++ ' ' :: second,rest)
    else (first,rest)
  | rest => (first,rest)

def scalar : Reader Toml := fun cs =>
  let (word, rest) := scalarText cs
  if word = "true".toList then some (.boolean true,rest)
  else if word = "false".toList then some (.boolean false,rest)
  else ((integer? word).or ((real? word).or (moment? word))).map fun v => (v,rest)

def elementsUpTo (item : Reader Toml) : (fuel : Nat) → Reader (List Toml)
  | 0, _ => none
  | fuel + 1, cs =>
    match anyLines cs with
    | ']' :: rest => some ([],rest)
    | cs => do
      let (v, cs) ← item cs
      match anyLines cs with
      | ',' :: rest =>
        let (vs, rest) ← elementsUpTo item fuel rest
        some (v :: vs,rest)
      | ']' :: rest => some ([v],rest)
      | _ => none

def entriesUpTo (item : Reader Toml) : (fuel : Nat) → Entries → Reader Entries
  | 0, _, _ => none
  | fuel + 1, entries, cs =>
    match anyLines cs with
    | '\x7d' :: rest => some (entries,rest)
    | cs => do
      let ((path, name), cs) ← dottedKey cs
      let (v, cs) ← item (gaps (← expect '=' cs))
      let entries ← insertValue v path name .header entries
      match anyLines cs with
      | ',' :: rest => entriesUpTo item fuel entries rest
      | '\x7d' :: rest => some (entries,rest)
      | _ => none

def valueWith (array table : Reader Toml) : Reader Toml := fun cs =>
  match cs with
  | '"' :: _ => (string cs).map fun r => (.text r.1,r.2)
  | '\'' :: _ => (string cs).map fun r => (.text r.1,r.2)
  | '[' :: rest => array rest
  | '\x7b' :: rest => table rest
  | cs => scalar cs

def value : (depth : Nat) → Reader Toml
  | 0 => valueWith (fun _ => none) (fun _ => none)
  | depth + 1 => valueWith
    (fun cs => (elementsUpTo (value depth) (cs.length + 1) cs).map fun r => (.array r.1,r.2))
    (fun cs => (entriesUpTo (value depth) (cs.length + 1) [] cs).map fun r =>
      (.table (sorted r.1),r.2))

def maxDepth : Nat := 80

structure Draft where
  root : Entries
  path : List String

def lineEnd (cs : List Char) : Option (List Char) :=
  match comment (gaps cs) with
  | [] => some []
  | cs => lineBreak? cs

def line (draft : Draft) : Reader Draft := fun cs =>
  match cs with
  | '[' :: '[' :: rest => do
    let ((path, name), rest) ← dottedKey rest
    let rest ← expect ']' (← expect ']' rest)
    let root ← atPath (openElement name) path draft.root
    some (⟨root,path ++ [name]⟩,← lineEnd rest)
  | '[' :: rest => do
    let ((path, name), rest) ← dottedKey rest
    let rest ← expect ']' rest
    let root ← atPath (openTable name) path draft.root
    some (⟨root,path ++ [name]⟩,← lineEnd rest)
  | cs => do
    let ((path, name), cs) ← dottedKey cs
    let (v, cs) ← value maxDepth (gaps (← expect '=' cs))
    let root ← atPath (insertValue v path name .header) draft.path draft.root
    some (⟨root,draft.path⟩,← lineEnd cs)

def document : (fuel : Nat) → Draft → List Char → Option Draft
  | 0, _, _ => none
  | fuel + 1, draft, cs =>
    match anyLines cs with
    | [] => some draft
    | cs => do
      let (draft, cs) ← line draft cs
      document fuel draft cs

end Reader

def read? (cs : List Char) : Option (List (String × Toml)) :=
  let cs := match cs with
    | '\ufeff' :: rest => rest
    | cs => cs
  (Reader.document (cs.length + 1) ⟨[],[]⟩ cs).map fun draft => sorted draft.root

end Querent.Toml
