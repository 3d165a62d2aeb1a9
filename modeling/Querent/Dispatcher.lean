import Querent.Conversion
import Querent.Message
import Querent.Response
import Querent.Text.Utf8

/-! The dispatcher of a session: it answers one frame after another and keeps the database that is
attached. Every frame gets one response. -/
namespace Querent
open Database (Handle Ledger)

inductive Frame where
  | message (m : Message)
  | malformed (fault : Message.Fault)
  deriving DecidableEq, Repr

def Frame.read (text : String) (receivedAt : Instant) : Frame :=
  match Message.decode text receivedAt with
  | .ok m => .message m
  | .error fault => .malformed fault

def Frame.readOctets (octets : Text.Utf8.Octets) (receivedAt : Instant) : Frame :=
  match Text.Utf8.decode octets with
  | .ok cs => read (String.ofList cs) receivedAt
  | .error fault => .malformed (.invalidEnvelope fault.message)

structure Attached where
  handle : Handle
  name : String
  schema : Schema
  deriving DecidableEq, Repr

structure Dispatcher.Rules where
  conversion : Conversion
  defaultBackend : String
  deriving DecidableEq, Repr

structure Dispatcher where
  ledger : Ledger
  attached : Option Attached
  deriving DecidableEq, Repr

namespace Dispatcher

def initial : Dispatcher := ⟨.empty,none⟩

def isReady (d : Dispatcher) : Bool := d.attached.isSome

inductive Failure where
  | unreadable (fault : Message.Fault)
  | notInitialized
  | database (failure : Database.Failure)
  | conversion (failure : Conversion.Failure)
  deriving DecidableEq, Repr

def Failure.message : Failure → String
  | .unreadable fault => fault.message
  | .notInitialized => "database chat has not been initialized: send attach-database first"
  | .database failure => failure.message
  | .conversion failure => failure.message

def payload {α : Type} (read : Json → Except Record.Fault α) (check : α → Except Message.Fault Unit)
    (m : Message) : Except Failure α :=
  match m.payloadAs read with
  | .error fault => .error (.unreadable fault)
  | .ok x => match check x with
    | .error fault => .error (.unreadable fault)
    | .ok () => .ok x

def engineOf (tag : String) : Except Failure Engine :=
  match Engine.ofTag? tag with
  | some engine => .ok engine
  | none => .error (.database (.unsupported tag))

def replace (d : Dispatcher) (attached : Attached) (l : Ledger) : Dispatcher :=
  match d.attached with
  | some previous => ⟨l.close previous.handle,some attached⟩
  | none => ⟨l,some attached⟩

def openFor (d : Dispatcher) (w : World) (engine : Engine) (r : AttachRequest) :
    Dispatcher × Except Failure String :=
  match w.openDatabase d.ledger engine r.url with
  | .error failure => (d,.error (.database failure))
  | .ok (h, l) => match w.schema l engine h r.database with
    | .error failure => ({ d with ledger := l.close h },.error (.database failure))
    | .ok schema =>
      (d.replace ⟨h,r.database,schema⟩ l,.ok ("successfully connected to: " ++ r.database))

def attach (d : Dispatcher) (w : World) (m : Message) : Dispatcher × Except Failure String :=
  match payload AttachRequest.ofJson AttachRequest.check m with
  | .error failure => (d,.error failure)
  | .ok r => match engineOf r.engine with
    | .error failure => (d,.error failure)
    | .ok engine => d.openFor w engine r

def ask (d : Dispatcher) (rules : Rules) (w : World) (m : Message) :
    List Event × Except Failure String :=
  match d.attached with
  | none => ([],.error .notInitialized)
  | some a => match payload AskRequest.ofJson AskRequest.check m with
    | .error failure => ([],.error failure)
    | .ok r =>
      let backend := r.backend.getD rules.defaultBackend
      let (events, answer) :=
        rules.conversion.answer w d.ledger a.handle backend r.question a.schema
      (events,answer.mapError .conversion)

def respond (w : World) (kind : String) : Except Failure String → Response
  | .ok text => ⟨kind,true,text,w.now⟩
  | .error failure => ⟨kind,false,failure.message,w.now⟩

structure Outcome where
  state : Dispatcher
  events : List Event
  response : Response

def handle (d : Dispatcher) (rules : Rules) (w : World) (m : Message) : Outcome :=
  if m.kind = Message.attachKind then
    let (state, answer) := d.attach w m
    ⟨state,[],respond w Response.attachKind answer⟩
  else if m.kind = Message.askKind then
    let (events, answer) := d.ask rules w m
    ⟨d,events,respond w Response.askKind answer⟩
  else ⟨d,[],⟨Response.unknownKind,false,"unknown message type: " ++ m.kind,w.now⟩⟩

def dispatch (d : Dispatcher) (rules : Rules) (w : World) : Frame → Outcome
  | .message m => d.handle rules w m
  | .malformed fault => ⟨d,[],⟨Response.invalidKind,false,fault.message,w.now⟩⟩

def shutdown (d : Dispatcher) : Dispatcher :=
  match d.attached with
  | some a => ⟨d.ledger.close a.handle,none⟩
  | none => d

def run (rules : Rules) (d : Dispatcher) : List (World × Frame) → Dispatcher × List Outcome
  | [] => (d,[])
  | (w, frame) :: rest =>
    let outcome := d.dispatch rules w frame
    let (last, outcomes) := run rules outcome.state rest
    (last,outcome :: outcomes)

end Dispatcher
end Querent
