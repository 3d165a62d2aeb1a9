import Querent.Backend.Registry
import Querent.Database.Catalog
import Querent.Database.Cell
import Querent.Database.Fetch
import Querent.Database.Ledger
import Querent.Instant.Basic

/-! What surrounds a server: the clock, the backends, and the databases that can be attached. Nothing
is assumed about it; each message may meet another world. -/
namespace Querent
open Database (Handle Ledger Catalog Cell Feed Fault Failure)

structure World where
  now : Instant
  backends : Backend.Registry Backend
  connect : Engine → (url : String) → Except Fault Unit
  catalog : Handle → (database : String) → Catalog
  rows : (h : Handle) → (sql : String) → Feed Fault (Cell h.engine)

namespace World

def openDatabase (w : World) (l : Ledger) (engine : Engine) (url : String) :
    Except Failure (Handle × Ledger) :=
  match w.connect engine url with
  | .ok () => .ok (l.openHandle engine url)
  | .error fault => .error (.connect engine fault)

def catalogFor (w : World) (l : Ledger) (reader : Engine) (h : Handle) (database : String) :
    Except Failure Catalog :=
  if reader ≠ h.engine then .error (.mismatch reader h.engine)
  else if l.isClosed h then .ok ⟨.error .closed,fun _ => .error .closed⟩
  else .ok (w.catalog h database)

def introspected {α : Type} : Except Fault α → Except Failure α
  | .ok x => .ok x
  | .error fault => .error (.introspection fault)

def listTables (w : World) (l : Ledger) (reader : Engine) (h : Handle) (database : String) :
    Except Failure (List String) := do
  introspected (← w.catalogFor l reader h database).tables

def listColumns (w : World) (l : Ledger) (reader : Engine) (h : Handle) (database table : String) :
    Except Failure Columns := do
  introspected ((← w.catalogFor l reader h database).columnsOf table)

def schema (w : World) (l : Ledger) (reader : Engine) (h : Handle) (database : String) :
    Except Failure Schema := do
  introspected (← w.catalogFor l reader h database).schema

def feed (w : World) (l : Ledger) (h : Handle) (sql : String) : Feed Fault (Cell h.engine) :=
  if l.isClosed h then [.error .closed] else w.rows h sql

def fetch (w : World) (l : Ledger) (h : Handle) (sql : String) (maxRows : Nat) :
    Except Failure ResultSet :=
  match Database.collect Cell.toJson maxRows (w.feed l h sql) with
  | .ok result => .ok result
  | .error fault => .error (.execution fault)

end World
end Querent
