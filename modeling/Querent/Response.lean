import Querent.Instant.Reader
import Querent.Json.Shape

/-! What is sent to a client: one response for each message, tagged by its kind. -/
namespace Querent

structure Response where
  kind : String
  isSuccess : Bool
  message : String
  sentAt : Instant
  deriving DecidableEq, Repr

namespace Response

def attachKind : String := "attach-database-response"

def askKind : String := "ask-response"

def unknownKind : String := "unknown"

def invalidKind : String := "invalid"

def busyKind : String := "busy"

def statusText (isSuccess : Bool) : String := if isSuccess then "success" else "error"

def frameWith (sentAt : String) (r : Response) : String :=
  (Json.object [("type",.text r.kind), ("status",.text (statusText r.isSuccess)),
    ("message",.text r.message), ("timestamp",.text sentAt)]).toText

def encode (r : Response) : String := frameWith (String.ofList r.sentAt.render) r

open Json.Reader in
def instant : Json.Reader Instant := fun cs => do
  let (s, rest) ← text cs
  match Instant.parse? s.toList with
  | some t => .ok (t,rest)
  | none => stop (.shape (.other "no instant")) rest

open Json.Reader in
def slots : List (TextSlot Response) :=
  [⟨["type"],true,into text fun kind r => { r with kind }⟩,
    ⟨["status"],true,into (choice [("success",true), ("error",false)]) fun isSuccess r =>
      { r with isSuccess }⟩,
    ⟨["message"],true,into text fun message r => { r with message }⟩,
    ⟨["timestamp"],true,into instant fun sentAt r => { r with sentAt }⟩]

def decode (frame : String) : Except Json.Fault Response :=
  Json.Reader.document (Json.Reader.record "Response" slots ⟨"",true,"",⟨0,0⟩⟩) frame.toList

end Response
end Querent
