import Querent.Instant.Basic

/-! The live sessions of a server, each with the instant at which it connected. -/
namespace Querent.Session

abbrev Id := String

structure Entry where
  id : Id
  connectedAt : Instant
  deriving DecidableEq, Repr

structure Registry where
  entries : List Entry
  deriving DecidableEq, Repr

namespace Registry

def empty : Registry := ⟨[]⟩

def get? (r : Registry) (id : Id) : Option Entry := r.entries.find? fun e => e.id = id

def contains (r : Registry) (id : Id) : Bool := (r.get? id).isSome

def register (r : Registry) (id : Id) (at_ : Instant) : Registry × Bool :=
  if r.contains id then (r,false) else (⟨r.entries ++ [⟨id,at_⟩]⟩,true)

def unregister (r : Registry) (id : Id) : Registry × Option Entry :=
  (⟨r.entries.filter fun e => e.id ≠ id⟩,r.get? id)

def ids (r : Registry) : List Id := r.entries.map (·.id)

def size (r : Registry) : Nat := r.entries.length

def isEmpty (r : Registry) : Bool := r.entries.isEmpty

end Registry
end Querent.Session
