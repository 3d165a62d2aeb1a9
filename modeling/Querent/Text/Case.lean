import Querent.Text.CaseTable

/-! Lower-casing of whole texts, where a capital sigma at the end of a word has a form of its own,
and the upper-case spelling by which words are compared with ASCII keywords. -/
namespace Querent.Text

def isCased (c : Char) : Bool := within casedSpans c

def isPassedOver (c : Char) : Bool := within passedOverSpans c

def lowerChar (c : Char) : List Char :=
  if c.toNat < 128 then [c.toLower]
  else if c = 'İ' then ['i', '\u0307']
  else match lowerRuns.find? (·.holds c.toNat) with
    | some run => [Char.ofNat (c.toNat + run.shift).toNat]
    | none => [c]

def meetsCased (cs : List Char) : Bool :=
  match cs.dropWhile isPassedOver with
  | [] => false
  | c :: _ => isCased c

def lowerFrom : (before : List Char) → List Char → List Char
  | _, [] => []
  | before, c :: rest =>
    let here := if c = 'Σ' then
        if meetsCased before && !meetsCased rest then ['ς'] else ['σ']
      else lowerChar c
    here ++ lowerFrom (c :: before) rest

def lower (cs : List Char) : List Char := lowerFrom [] cs

def lowercased (s : String) : String := String.ofList (lower s.toList)

def upperAsciiChar (c : Char) : List Char :=
  match c with
  | 'ſ' => ['S'] | 'ı' => ['I'] | 'ß' => ['S','S']
  | 'ﬀ' => ['F','F'] | 'ﬁ' => ['F','I'] | 'ﬂ' => ['F','L'] | 'ﬃ' => ['F','F','I']
  | 'ﬄ' => ['F','F','L'] | 'ﬅ' => ['S','T'] | 'ﬆ' => ['S','T']
  | c => [c.toUpper]

def upperAscii (cs : List Char) : List Char := cs.flatMap upperAsciiChar

example : lower "ΟΔΟΣ A".toList = "οδος a".toList := by decide +kernel
example : lower "ΣΑΣ·Α".toList = "σασ·α".toList := by decide +kernel
example : lower "İK".toList = "i\u0307k".toList := by decide +kernel

end Querent.Text
