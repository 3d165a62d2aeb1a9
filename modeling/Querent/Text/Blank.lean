import Querent.Text.Span

/-! White space as a property of characters, and trimming and splitting by it. -/
namespace Querent.Text

def blanks : List Span :=
  [⟨9,13⟩, ⟨32,32⟩, ⟨133,133⟩, ⟨160,160⟩, ⟨5760,5760⟩, ⟨8192,8202⟩, ⟨8232,8233⟩, ⟨8239,8239⟩,
    ⟨8287,8287⟩, ⟨12288,12288⟩]

def isBlank (c : Char) : Bool := within blanks c

def trimStart (cs : List Char) : List Char := cs.dropWhile isBlank

def trimEnd : List Char → List Char
  | [] => []
  | c :: rest => match trimEnd rest with
    | [] => if isBlank c then [] else [c]
    | kept => c :: kept

def trim (cs : List Char) : List Char := trimEnd (trimStart cs)

def allBlank (cs : List Char) : Bool := cs.all isBlank

def trimmed (s : String) : String := String.ofList (trim s.toList)

def isBlankText (s : String) : Bool := allBlank s.toList

example : trim " \u3000a b\n".toList = "a b".toList := by decide
example : allBlank "\u200b".toList = false := by decide

end Querent.Text
