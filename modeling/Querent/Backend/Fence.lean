import Querent.Text.Blank

/-! The query in what a backend writes. White space around it is dropped, and so is a code fence with
the language that its first line may name. -/
namespace Querent.Backend.Fence
open Text (isBlank trim trimEnd)

def mark : List Char := ['\x60','\x60','\x60']

def withoutClosing (cs : List Char) : List Char :=
  if mark.isSuffixOf cs then cs.take (cs.length - mark.length) else cs

def languages : List String := ["sql", "postgres", "postgresql", "pgsql", "mysql", "sqlite"]

def isLanguage (cs : List Char) : Bool := languages.contains (String.ofList (cs.map Char.toLower))

def firstLine (cs : List Char) : List Char × List Char :=
  let (first, rest) := cs.span (· != '\n')
  (trim first,rest.drop 1)

def queryPart (first rest : List Char) : List Char :=
  if !rest.isEmpty && !first.any isBlank then []
  else
    let (tag, query) := first.span (!isBlank ·)
    if isLanguage tag then query.drop 1 else first

def strip (raw : List Char) : List Char :=
  let text := trim raw
  if mark.isPrefixOf text then
    let (first, rest) := firstLine (withoutClosing (trimEnd (text.drop mark.length)))
    let first := queryPart first rest
    if first.isEmpty then trim rest else trim (first ++ '\n' :: rest)
  else text

def normalized (raw : String) : String := String.ofList (strip raw.toList)

example : normalized "\x60\x60\x60sql\nSELECT 1\n\x60\x60\x60" = "SELECT 1" := by decide +kernel
example : normalized "\x60\x60\x60SELECT 1\x60\x60\x60" = "SELECT 1" := by decide +kernel

end Querent.Backend.Fence
