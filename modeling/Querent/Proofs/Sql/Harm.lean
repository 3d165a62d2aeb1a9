import Querent.Proofs.Sql.Depth
import Querent.Sql.Reader
import Querent.Sql.Verdict

/-! The ways in which a query does more than read. In both dialects each of them has keywords of which
one is always written: a lock is one for update or for share, a table takes rows behind a word of its
own, and a change begins with what it does. -/
namespace Querent.Sql
open Reader

inductive Harm where
  | lock
  | target
  | change
  deriving DecidableEq, Repr

def Harm.marks : Harm → List String
  | .lock => ["UPDATE", "SHARE"]
  | .target => ["INTO"]
  | .change => ["INSERT", "UPDATE", "DELETE", "MERGE"]

namespace Node

def Spares : Node → Harm → Prop
  | .query (.mk _ _ _ locks), .lock => locks = []
  | .body (.select _ into _ _), .target => into = none
  | .body (.change _), .change => False
  | _, _ => True

def Free (h : Harm) (m : Node) : Prop := ∀ n, Within n m → n.Spares h

theorem freeIff {h : Harm} {m : Node} : m.Free h ↔ m.Spares h ∧ ∀ c ∈ m.children, c.Free h :=
  throughoutIff

theorem harmlessOfSpares {n : Node} (spares : ∀ h, n.Spares h) : n.Harmless := by
  cases n with
  | expr e => trivial
  | source s => trivial
  | body b =>
    cases b with
    | select => exact spares .target
    | change => exact spares .change
    | _ => trivial
  | query q =>
    cases q with
    | mk => exact spares .lock

theorem onlyReadsOfFree {m : Node} (free : ∀ h, m.Free h) : m.OnlyReads :=
  fun n within => harmlessOfSpares fun h => free h n within

end Node

/-- A parser reads a harm of any kind in a dialect only where one of its keywords is a token. -/
def Parser.Spells (p : Parser) (d : Dialect) : Prop :=
  ∀ {ts q} (h : Harm), p.statements d ts = .ok [.query q] → ¬(Node.query q).Free h →
    ∃ t ∈ ts, keyOf (some t.token) ∈ h.marks

end Querent.Sql
