/-! Numbers of so many bits. -/
namespace Querent.Bits

def count (bits : Nat) : Nat := Nat.pow 2 bits

def fits (bits : Nat) (i : Int) : Bool := -(count bits : Int) ≤ i && i < count bits

example : fits 7 (-128) ∧ ¬ fits 7 128 := by decide

end Querent.Bits
