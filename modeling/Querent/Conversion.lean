import Querent.Backend.Fence
import Querent.Guard
import Querent.World

/-! From a question to an answer: a backend writes a query, the guard looks at it, the database runs
it, and the backend tells what came out. The first step that fails is the last. -/
namespace Querent
open Database (Handle Ledger)

inductive Event where
  | generate (backend : String) (schema : Schema) (question : String)
  | execute (h : Handle) (sql : String) (maxRows : Nat)
  | summarize (backend : String) (result : ResultSet) (question : String)
  deriving DecidableEq, Repr

structure Conversion where
  guard : Guard
  maxRows : Nat
  deriving DecidableEq, Repr

namespace Conversion

inductive Failure where
  | unknownBackend (name : String)
  | query (failure : Backend.Failure)
  | summary (failure : Backend.Failure)
  | unsafeQuery (refusal : Guard.Refusal)
  | execution (failure : Database.Failure)
  deriving DecidableEq, Repr

def Failure.message : Failure → String
  | .unknownBackend name => "unknown backend: " ++ name
  | .query failure => "query generation failed: " ++ failure.message
  | .summary failure => "summary generation failed: " ++ failure.message
  | .unsafeQuery refusal => "unsafe query rejected: " ++ refusal.message
  | .execution failure => failure.message

abbrev Outcome := List Event × Except Failure String

def summarize (b : Backend) (result : ResultSet) (question : String) : Outcome :=
  ([.summarize b.name result question],(b.summary result question).mapError .summary)

def execute (c : Conversion) (w : World) (l : Ledger) (h : Handle) (b : Backend) (sql question : String) :
    Outcome :=
  let event := Event.execute h sql c.maxRows
  match w.fetch l h sql c.maxRows with
  | .error failure => ([event],.error (.execution failure))
  | .ok result =>
    let (events, answer) := summarize b result question
    (event :: events,answer)

def answerWith (c : Conversion) (w : World) (l : Ledger) (h : Handle) (b : Backend) (question : String)
    (schema : Schema) : Outcome :=
  let event := Event.generate b.name schema question
  match b.query schema question with
  | .error failure => ([event],.error (.query failure))
  | .ok raw =>
    let sql := Backend.Fence.normalized raw
    match c.guard.check sql with
    | .error refusal => ([event],.error (.unsafeQuery refusal))
    | .ok () =>
      let (events, answer) := c.execute w l h b sql question
      (event :: events,answer)

def answer (c : Conversion) (w : World) (l : Ledger) (h : Handle) (backend question : String)
    (schema : Schema) : Outcome :=
  match w.backends.get? backend with
  | none => ([],.error (.unknownBackend backend))
  | some b => c.answerWith w l h b question schema

end Conversion
end Querent
