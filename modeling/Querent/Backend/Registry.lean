import Querent.Backend.Basic
import Querent.Text.Quoted

/-! The backends of a server by name. Names are compared without white space around them and in lower
case; a backend takes the place of an earlier one of its name. -/
namespace Querent.Backend

structure Registry (β : Type) where
  backends : Dictionary β

namespace Registry
variable {β : Type}

def empty : Registry β := ⟨.empty⟩

instance : Inhabited (Registry β) := ⟨empty⟩

def register (r : Registry β) (name : String) (backend : β) : Registry β :=
  ⟨r.backends.insert (lookupName name) backend⟩

def registerKind (r : Registry β) (kind : Kind) (backend : β) : Registry β :=
  kind.aliases.foldl (fun r name => r.register name backend) r

def get? (r : Registry β) (name : String) : Option β := r.backends.get? (lookupName name)

def contains (r : Registry β) (name : String) : Bool := (r.get? name).isSome

def names (r : Registry β) : List String := r.backends.names

def size (r : Registry β) : Nat := r.backends.size

def isEmpty (r : Registry β) : Bool := r.backends.isEmpty

def display (r : Registry β) : String :=
  "BackendRegistry \x7b names: [" ++ ", ".intercalate (r.names.map Text.Quoted.quoted) ++ "] \x7d"

end Registry
end Querent.Backend
