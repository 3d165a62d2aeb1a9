import Querent.Backend.Kind
import Querent.ResultSet
import Querent.Schema

/-! Backends: whatever turns a question into a query, and rows into an answer. -/
namespace Querent
namespace Backend

inductive Failure where
  | unknown (name : String)
  | notConfigured (backend reason : String)
  | unreachable (backend : String)
  | status (backend : String) (code : Nat) (body : String)
  | unreadable (backend reason : String)
  | emptyCompletion (backend : String)
  deriving DecidableEq, Repr

def Failure.message : Failure → String
  | .unknown name =>
    "unknown backend '" ++ name ++ "'. Valid values: llama, ollama, openai, gpt, gemini"
  | .notConfigured backend reason => backend ++ " backend is not configured: " ++ reason
  | .unreachable backend => "failed to contact " ++ backend
  | .status backend code body => backend ++ " error (" ++ toString code ++ "): " ++ body
  | .unreadable backend reason => "failed to parse " ++ backend ++ " response: " ++ reason
  | .emptyCompletion backend => backend ++ " returned an empty completion"

def Kind.named (name : String) : Except Failure Kind :=
  match ofName? name with
  | some kind => .ok kind
  | none => .error (.unknown (lookupName name))

end Backend

structure Backend where
  name : String
  query : (schema : Schema) → (question : String) → Except Backend.Failure String
  summary : (result : ResultSet) → (question : String) → Except Backend.Failure String

end Querent
