/-! Sets of characters given by runs of code points. The tables of character
properties are lists of such runs in ascending order. -/
namespace Querent.Text

structure Span where
  first : Nat
  last : Nat
  deriving DecidableEq, Repr

def Span.holds (span : Span) (c : Char) : Bool := span.first ≤ c.toNat && c.toNat ≤ span.last

def within (table : List Span) (c : Char) : Bool := table.any (·.holds c)

@[simp] theorem withinNil (c : Char) : within [] c = false := rfl

@[simp] theorem withinCons (span : Span) (table : List Span) (c : Char) :
    within (span :: table) c = (span.holds c || within table c) := rfl

end Querent.Text
