import Querent.Json.Printer
import Querent.Server.About
import Querent.Server.Basic

/-! What a server answers to requests over HTTP: its health, and the place where sessions begin. -/
namespace Querent.Server

inductive Route where
  | socket
  | health
  deriving DecidableEq, Repr

namespace Route

def path (target : String) : String :=
  String.ofList (target.toList.takeWhile fun c => c ≠ '?' && c ≠ '#')

def ofTarget? (target : String) : Option Route :=
  match path target with
  | "/ws" => some .socket
  | "/health" => some .health
  | _ => none

end Route

structure Reply where
  status : Nat
  contentType : Option String
  body : String
  deriving DecidableEq, Repr

namespace Reply

def refused (status : Nat) : Reply := ⟨status,none,""⟩

def json (j : Json) : Reply := ⟨200,some "application/json",j.toText⟩

end Reply

def health (s : Server) : Json :=
  .object [("status",.text "ok"), ("service",.text service), ("version",.text version),
    ("sessions",.nat s.sessions.size)]

def reply (s : Server) (method target : String) : Reply :=
  match Route.ofTarget? target, method with
  | none, _ => .refused 404
  | some .socket, "GET" => .refused 400
  | some .health, "GET" => .json s.health
  | some .health, "HEAD" => { Reply.json s.health with body := "" }
  | some _, _ => .refused 405

end Querent.Server
