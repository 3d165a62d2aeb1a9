import Querent.Engine

/-! Handles of databases. They are numbered in the order in which they were opened, and the ledger
knows which of them are closed. -/
namespace Querent.Database

structure Handle where
  number : Nat
  engine : Engine
  url : String
  deriving DecidableEq, Repr

structure Ledger where
  opened : Nat
  closed : List Nat
  deriving DecidableEq, Repr

namespace Ledger

def empty : Ledger := ⟨0,[]⟩

def openHandle (l : Ledger) (engine : Engine) (url : String) : Handle × Ledger :=
  (⟨l.opened,engine,url⟩,{ l with opened := l.opened + 1 })

def isClosed (l : Ledger) (h : Handle) : Bool := l.closed.contains h.number

def close (l : Ledger) (h : Handle) : Ledger :=
  if l.isClosed h then l else { l with closed := h.number :: l.closed }

def openNumbers (l : Ledger) : List Nat := (List.range l.opened).filter (!l.closed.contains ·)

end Ledger
end Querent.Database
