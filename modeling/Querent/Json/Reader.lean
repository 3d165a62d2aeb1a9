import Querent.Bits
import Querent.Json.Fault

/-! Reading JSON text from the front. A reader takes the text that is left and gives back a value
and the text after it. Of two members of one name the last value stays. -/
namespace Querent.Json

abbrev Reader (α : Type) := List Char → Except Fault (α × List Char)

namespace Reader

def stop {α : Type} (problem : Problem) (rest : List Char) : Except Fault α :=
  .error ⟨problem,rest,0⟩

def stopNext {α : Type} (problem : Problem) (rest : List Char) : Except Fault α :=
  .error ⟨problem,rest,1⟩

def isGap (c : Char) : Bool := c == ' ' || c == '\n' || c == '\t' || c == '\r'

def skip (cs : List Char) : List Char := cs.dropWhile isGap

def word {α : Type} (value : α) : List Char → Reader α
  | [], cs => .ok (value,cs)
  | _ :: _, [] => stop .unfinishedValue []
  | e :: expected, c :: cs => if c = e then word value expected cs else stopNext .badWord (c :: cs)

def octets (cs : List Char) : Nat := cs.foldr (fun c n => c.utf8Size + n) 0

def hexUnit (cs : List Char) : Except Fault (Nat × List Char) :=
  let bad : Except Fault (Nat × List Char) :=
    if octets cs < 4 then stop .unfinishedString [] else .error ⟨.badEscape,cs,4⟩
  match cs with
  | a :: b :: c :: d :: rest =>
    match Text.Hex.value? a, Text.Hex.value? b, Text.Hex.value? c, Text.Hex.value? d with
    | some a, some b, some c, some d => .ok (a * 4096 + b * 256 + c * 16 + d,rest)
    | _, _, _, _ => bad
  | _ => bad

def isLeading (n : Nat) : Bool := 0xD800 ≤ n && n ≤ 0xDBFF

def isTrailing (n : Nat) : Bool := 0xDC00 ≤ n && n ≤ 0xDFFF

def unicodeEscape (cs : List Char) : Except Fault (Char × List Char) := do
  let (n, rest) ← hexUnit cs
  if isTrailing n then stop .loneSurrogate rest
  else if isLeading n then
    match rest with
    | [] => stop .unfinishedString []
    | '\\' :: [] => stop .unfinishedString []
    | '\\' :: 'u' :: rest =>
      let (m, rest) ← hexUnit rest
      if isTrailing m then
        .ok (Char.ofNat ((n - 0xD800) * 0x400 + (m - 0xDC00) + 0x10000),rest)
      else stop .loneSurrogate rest
    | '\\' :: rest => stopNext .unfinishedPair rest
    | rest => stopNext .unfinishedPair rest
  else .ok (Char.ofNat n,rest)

def escaped : List Char → Except Fault (Char × List Char)
  | [] => stop .unfinishedString []
  | '"' :: rest => .ok ('"',rest)
  | '\\' :: rest => .ok ('\\',rest)
  | '/' :: rest => .ok ('/',rest)
  | 'b' :: rest => .ok ('\x08',rest)
  | 'f' :: rest => .ok ('\x0c',rest)
  | 'n' :: rest => .ok ('\n',rest)
  | 'r' :: rest => .ok ('\r',rest)
  | 't' :: rest => .ok ('\t',rest)
  | 'u' :: rest => unicodeEscape rest
  | rest => stopNext .badEscape rest

def stringUpTo : (fuel : Nat) → Reader (List Char)
  | 0, cs => stop .unfinishedString cs
  | _ + 1, [] => stop .unfinishedString []
  | fuel + 1, c :: cs =>
    if c = '"' then .ok ([],cs)
    else if c = '\\' then do
      let (d, cs) ← escaped cs
      let (ds, cs) ← stringUpTo fuel cs
      .ok (d :: ds,cs)
    else if c.toNat < 32 then stop .controlCharacter cs
    else do
      let (ds, cs) ← stringUpTo fuel cs
      .ok (c :: ds,cs)

def string (cs : List Char) : Except Fault (String × List Char) := do
  let (ds, rest) ← stringUpTo (cs.length + 1) cs
  .ok (String.ofList ds,rest)

structure Numeral where
  whole : List Char
  fraction : Option (List Char)
  exponent : Option (Bool × List Char)

def digitValue (c : Char) : Nat := c.toNat - 48

def splitDigits (cs : List Char) : List Char × List Char := cs.span Char.isDigit

def wholePart : Reader (List Char)
  | [] => stop .unfinishedValue []
  | '0' :: cs => match cs with
    | d :: _ => if d.isDigit then stopNext .badNumber cs else .ok (['0'],cs)
    | [] => .ok (['0'],[])
  | c :: cs => if c.isDigit then .ok (splitDigits (c :: cs)) else stopNext .badNumber (c :: cs)

def fractionPart : Reader (Option (List Char))
  | '.' :: cs => match splitDigits cs with
    | ([], []) => stop .unfinishedValue []
    | ([], rest) => stopNext .badNumber rest
    | (digits, rest) => .ok (some digits,rest)
  | cs => .ok (none,cs)

def exponentDigits (negative : Bool) : Reader (Option (Bool × List Char))
  | [] => stop .unfinishedValue []
  | c :: cs => match splitDigits (c :: cs) with
    | ([], rest) => stopNext .badNumber rest
    | (digits, rest) => .ok (some (negative,digits),rest)

def exponentPart : Reader (Option (Bool × List Char))
  | [] => .ok (none,[])
  | c :: cs =>
    if c = 'e' ∨ c = 'E' then match cs with
      | '+' :: rest => exponentDigits false rest
      | '-' :: rest => exponentDigits true rest
      | rest => exponentDigits false rest
    else .ok (none,c :: cs)

def fitDigits (limit : Nat) : (kept : Nat) → List Char → Nat × Nat
  | kept, [] => (kept,0)
  | kept, c :: cs =>
    if kept * 10 + digitValue c < limit then fitDigits limit (kept * 10 + digitValue c) cs
    else (kept,cs.length + 1)

def scaleReal : (fuel : Nat) → Double → Int → Option Double
  | 0, x, _ => some x
  | fuel + 1, x, power =>
    if power.natAbs ≤ 308 then
      let factor : Double := .ofDecimal false 1 power.natAbs
      if 0 ≤ power then
        let y := x.mul factor
        if y.isInfinite then none else some y
      else some (x.div factor)
    else if x.isZero then some x
    else if 0 ≤ power then none
    else scaleReal fuel (x.div (.ofDecimal false 1 308)) (power + 308)

def signed (negative : Bool) (x : Double) : Double := if negative then x.neg else x

def toReal (negative : Bool) (digits : Nat) (power : Int) (rest : List Char) :
    Except Fault (Number × List Char) :=
  match scaleReal 4 (.ofInt digits) power with
  | some x => .ok (.real (signed negative x),rest)
  | none => stop .numberRange rest

/-- The value of a numeral; `rest` is the text after it. Whole numbers of 64 bits are exact, any
other is a double made from the leading digits that fit 64 bits. -/
def Numeral.value (n : Numeral) (negative : Bool) (rest : List Char) :
    Except Fault (Number × List Char) :=
  let (whole, left) := fitDigits (Bits.count 64) 0 n.whole
  match n.fraction, n.exponent with
  | none, none =>
    if left ≠ 0 then toReal negative whole left rest
    else if negative = false then .ok (.integer whole,rest)
    else if whole ≠ 0 ∧ whole ≤ Bits.count 63 then .ok (.integer (-whole),rest)
    else .ok (.real (signed true (.ofInt whole)),rest)
  | fraction, exponent =>
    let places := fraction.getD []
    let (digits, cut) := fitDigits (Bits.count 64) whole places
    let power : Int := left - Int.ofNat (places.length - cut)
    match exponent with
    | none => toReal negative digits power rest
    | some (below, exponent) =>
      let (e, excess) := fitDigits (Bits.count 31) 0 exponent
      if excess ≠ 0 then
        if digits ≠ 0 ∧ below = false then stop .numberRange (exponent.drop (exponent.length - excess + 1) ++ rest)
        else .ok (.real (.zero negative),rest)
      else toReal negative digits (if below then power - e else power + e) rest

def number (negative : Bool) (cs : List Char) : Except Fault (Number × List Char) := do
  let (whole, cs) ← wholePart cs
  let (fraction, cs) ← fractionPart cs
  let (exponent, cs) ← exponentPart cs
  (⟨whole,fraction,exponent⟩ : Numeral).value negative cs

def elementsUpTo {α : Type} (item : Reader α) : (fuel : Nat) → (first : Bool) → Reader (List α)
  | 0, _, cs => stop .unfinishedList cs
  | fuel + 1, first, cs => match skip cs with
    | [] => stop .unfinishedList []
    | ']' :: rest => .ok ([],rest)
    | c :: rest => do
      let next ← if first then .ok (c :: rest)
        else if c = ',' then match skip rest with
          | [] => stop .unfinishedValue []
          | ']' :: rest => stopNext .trailingComma (']' :: rest)
          | next => .ok next
        else stopNext .noListSeparator (c :: rest)
      let (x, rest) ← item next
      let (xs, rest) ← elementsUpTo item fuel false rest
      .ok (x :: xs,rest)

def elements {α : Type} (item : Reader α) : Reader (List α) :=
  fun cs => elementsUpTo item (cs.length + 1) true cs

def colon : List Char → Except Fault (List Char)
  | cs => match skip cs with
    | [] => stop .unfinishedObject []
    | ':' :: rest => .ok rest
    | rest => stopNext .noColon rest

def memberName (first : Bool) (cs : List Char) : Except Fault (Option String × List Char) :=
  match skip cs with
  | [] => stop .unfinishedObject []
  | '\x7d' :: rest => .ok (none,rest)
  | c :: rest =>
    if first then
      if c = '"' then do
        let (name, rest) ← string rest
        .ok (some name,rest)
      else stopNext .keyNotText (c :: rest)
    else if c = ',' then match skip rest with
      | '"' :: rest => do
        let (name, rest) ← string rest
        .ok (some name,rest)
      | '\x7d' :: rest => stopNext .trailingComma ('\x7d' :: rest)
      | [] => stop .unfinishedValue []
      | rest => stopNext .keyNotText rest
    else stopNext .noObjectSeparator (c :: rest)

def membersUpTo {σ : Type} (step : String → σ → Reader σ) :
    (fuel : Nat) → (first : Bool) → σ → Reader σ
  | 0, _, _, cs => stop .unfinishedObject cs
  | fuel + 1, first, state, cs => do
    match ← memberName first cs with
    | (none, rest) => .ok (state,rest)
    | (some name, rest) =>
      let (state, rest) ← step name state rest
      membersUpTo step fuel false state rest

def members {σ : Type} (step : String → σ → Reader σ) (state : σ) : Reader σ :=
  fun cs => membersUpTo step (cs.length + 1) true state cs

def valueWith (list object : Reader Json) : Reader Json := fun cs =>
  match skip cs with
  | [] => stop .unfinishedValue []
  | c :: rest =>
    if c = 'n' then word .null ['u','l','l'] rest
    else if c = 't' then word (.bool true) ['r','u','e'] rest
    else if c = 'f' then word (.bool false) ['a','l','s','e'] rest
    else if c = '-' then do
      let (n, rest) ← number true rest
      .ok (.number n,rest)
    else if c.isDigit then do
      let (n, rest) ← number false (c :: rest)
      .ok (.number n,rest)
    else if c = '"' then do
      let (s, rest) ← string rest
      .ok (.text s,rest)
    else if c = '[' then list (c :: rest)
    else if c = '\x7b' then object (c :: rest)
    else stopNext .noValue (c :: rest)

def value : (depth : Nat) → Reader Json
  | 0 => valueWith (stopNext .tooDeep) (stopNext .tooDeep)
  | depth + 1 => valueWith
    (fun cs => do
      let (xs, rest) ← elements (value depth) (cs.drop 1)
      .ok (.array xs,rest))
    (fun cs => do
      let step := fun name done cs => do
        let cs ← colon cs
        let (v, cs) ← value depth cs
        .ok (setMember name v done,cs)
      let (ms, rest) ← members step [] (cs.drop 1)
      .ok (.object ms,rest))

def maxDepth : Nat := 127

def document {α : Type} (reader : Reader α) (text : List Char) : Except Fault α := do
  let (x, rest) ← reader text
  match skip rest with
  | [] => .ok x
  | rest => stopNext .trailingText rest

def ignoredString : (fuel : Nat) → Reader Unit
  | 0, cs => stop .unfinishedString cs
  | _ + 1, [] => stop .unfinishedString []
  | fuel + 1, c :: cs =>
    if c = '"' then .ok ((),cs)
    else if c = '\\' then match cs with
      | 'u' :: cs => do
        let (_, cs) ← hexUnit cs
        ignoredString fuel cs
      | cs => do
        let (_, cs) ← escaped cs
        ignoredString fuel cs
    else if c.toNat < 32 then stop .controlCharacter (c :: cs)
    else ignoredString fuel cs

def ignoredWhole : Reader Unit
  | [] => stop .badNumber []
  | cs => do
    let (_, cs) ← wholePart cs
    .ok ((),cs)

def ignoredFraction : Reader Unit
  | '.' :: cs => match splitDigits cs with
    | ([], rest) => stopNext .badNumber rest
    | (_, rest) => .ok ((),rest)
  | cs => .ok ((),cs)

def ignoredExponentDigits (cs : List Char) : Except Fault (Unit × List Char) :=
  match splitDigits cs with
  | ([], rest) => stopNext .badNumber rest
  | (_, rest) => .ok ((),rest)

def ignoredExponent : Reader Unit
  | [] => .ok ((),[])
  | c :: cs =>
    if c = 'e' ∨ c = 'E' then match cs with
      | '+' :: rest => ignoredExponentDigits rest
      | '-' :: rest => ignoredExponentDigits rest
      | rest => ignoredExponentDigits rest
    else .ok ((),c :: cs)

def ignoredNumber (cs : List Char) : Except Fault (Unit × List Char) := do
  let (_, cs) ← ignoredWhole cs
  let (_, cs) ← ignoredFraction cs
  ignoredExponent cs

def ignoredRest (next : Reader Unit) (close : Char) (unfinished noSeparator : Problem) :
    (fuel : Nat) → Reader Unit
  | 0, cs => stop unfinished cs
  | fuel + 1, cs => match skip cs with
    | [] => stop unfinished []
    | c :: rest =>
      if c = ',' then do
        let (_, rest) ← next rest
        ignoredRest next close unfinished noSeparator fuel rest
      else if c = close then .ok ((),rest)
      else stopNext noSeparator (c :: rest)

def ignoredList (next : Reader Unit) (close : Char) (unfinished noSeparator : Problem) : Reader Unit :=
  fun cs => match skip cs with
    | [] => stop unfinished []
    | c :: rest =>
      if c = close then .ok ((),rest)
      else do
        let (_, rest) ← next (c :: rest)
        ignoredRest next close unfinished noSeparator (rest.length + 1) rest

def ignoredMember (item : Reader Unit) : Reader Unit := fun cs =>
  match skip cs with
  | [] => stop .unfinishedObject []
  | '"' :: rest => do
    let (_, rest) ← ignoredString (rest.length + 1) rest
    item (← colon rest)
  | rest => stopNext .keyNotText rest

def ignored : (fuel : Nat) → Reader Unit
  | 0, cs => stop .unfinishedValue cs
  | fuel + 1, cs => match skip cs with
    | [] => stop .unfinishedValue []
    | c :: rest =>
      if c = 'n' then word () ['u','l','l'] rest
      else if c = 't' then word () ['r','u','e'] rest
      else if c = 'f' then word () ['a','l','s','e'] rest
      else if c = '-' then ignoredNumber rest
      else if c.isDigit then ignoredNumber (c :: rest)
      else if c = '"' then ignoredString (rest.length + 1) rest
      else if c = '[' then
        ignoredList (ignored fuel) ']' .unfinishedList .noListSeparator rest
      else if c = '\x7b' then
        ignoredList (ignoredMember (ignored fuel)) '\x7d' .unfinishedObject .noObjectSeparator rest
      else stopNext .noValue (c :: rest)

def passOver : Reader Unit := fun cs => ignored (cs.length + 1) cs

end Reader

def read (text : List Char) : Except Fault Json := Reader.document (Reader.value Reader.maxDepth) text

end Querent.Json
