import Querent.Instant.Basic
import Querent.Json.Shape
import Querent.Text.Blank

/-! What a client sends: a message tagged by its kind, whose payload stays as it is until it is read
for that kind. -/
namespace Querent

structure Message where
  kind : String
  payload : Json
  receivedAt : Instant
  deriving DecidableEq, Repr

structure AttachRequest where
  engine : String
  database : String
  url : String
  deriving DecidableEq, Repr

structure AskRequest where
  question : String
  backend : Option String
  deriving DecidableEq, Repr

namespace Message

def attachKind : String := "attach-database"

def askKind : String := "ask"

inductive Fault where
  | invalidEnvelope (reason : String)
  | missingPayload (kind : String)
  | invalidPayload (kind reason : String)
  | emptyField (kind field : String)
  deriving DecidableEq, Repr

def Fault.message : Fault → String
  | .invalidEnvelope reason => "invalid message format: " ++ reason
  | .missingPayload kind => "missing payload for message type " ++ kind
  | .invalidPayload kind reason => "invalid payload for message type " ++ kind ++ ": " ++ reason
  | .emptyField kind field =>
    "field " ++ field ++ " of message type " ++ kind ++ " cannot be empty"

def slots : List (Json.Reader.TextSlot Message) :=
  [⟨["type"],true,Json.Reader.into Json.Reader.text fun kind m => { m with kind }⟩,
    ⟨["payload"],false,
      Json.Reader.into (Json.Reader.value (Json.Reader.maxDepth - 1)) fun payload m =>
        { m with payload }⟩]

def reader (receivedAt : Instant) : Json.Reader Message :=
  Json.Reader.record "InboundMessage" slots ⟨"",.null,receivedAt⟩

def decode (frame : String) (receivedAt : Instant) : Except Fault Message :=
  match Json.Reader.document (reader receivedAt) frame.toList with
  | .ok message => .ok message
  | .error fault => .error (.invalidEnvelope (fault.message frame.toList))

def toJson (m : Message) : Json :=
  .object [("type",.text m.kind), ("payload",m.payload),
    ("timestamp",.text (String.ofList m.receivedAt.render))]

def payloadAs {α : Type} (read : Json → Except Record.Fault α) (m : Message) : Except Fault α :=
  if m.payload.isNull then .error (.missingPayload m.kind)
  else match read m.payload with
    | .ok x => .ok x
    | .error fault => .error (.invalidPayload m.kind (fault.message Json.messages))

end Message

def Record.slot {α σ : Type} (names : List String) (required : Bool)
    (read : Json → Except Record.Fault α) (update : α → σ → σ) :
    Record.Slot (Record.Update Json σ) :=
  ⟨names,required,fun j => (read j).map update⟩

namespace AttachRequest

def slots : List (Record.Slot (Record.Update Json AttachRequest)) :=
  [Record.slot ["engine","db_type"] true Json.asText fun engine r => { r with engine },
    Record.slot ["db","db_name"] true Json.asText fun database r => { r with database },
    Record.slot ["url","db_url"] true Json.asText fun url r => { r with url }]

def ofJson : Json → Except Record.Fault AttachRequest :=
  Json.asRecord "AttachDatabasePayload" slots ⟨"","",""⟩

def toJson (r : AttachRequest) : Json :=
  .object [("engine",.text r.engine), ("db",.text r.database), ("url",.text r.url)]

def blankField? (r : AttachRequest) : Option String :=
  ([("engine",r.engine), ("db",r.database), ("url",r.url)].find?
    (fun field => Text.isBlankText field.2)).map (·.1)

def check (r : AttachRequest) : Except Message.Fault Unit :=
  match r.blankField? with
  | some field => .error (.emptyField Message.attachKind field)
  | none => .ok ()

end AttachRequest

namespace AskRequest

def slots : List (Record.Slot (Record.Update Json AskRequest)) :=
  [Record.slot ["question"] true Json.asText fun question r => { r with question },
    Record.slot ["backend"] false (Json.asOptional Json.asText) fun backend r => { r with backend }]

def ofJson : Json → Except Record.Fault AskRequest := Json.asRecord "AskPayload" slots ⟨"",none⟩

def toJson (r : AskRequest) : Json :=
  .object (("question",.text r.question) :: match r.backend with
    | some backend => [("backend",.text backend)]
    | none => [])

def check (r : AskRequest) : Except Message.Fault Unit :=
  if Text.isBlankText r.question then .error (.emptyField Message.askKind "question") else .ok ()

end AskRequest
end Querent
