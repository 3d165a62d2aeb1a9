import Querent.Bits
import Querent.Config.Basic
import Querent.Dispatcher
import Querent.Session.Registry

/-! A session: a connection to one client. Three tasks share two queues of limited length and a signal
that closes the session. The reader queues what arrives, the dispatcher answers it, and the writer
sends the answers. Times are counted in milliseconds. -/
namespace Querent.Session

inductive Incoming where
  | text (s : String)
  | binary (octets : Text.Utf8.Octets)
  | ping
  | pong
  | close
  | failed
  | ended
  deriving DecidableEq, Repr

inductive Outgoing where
  | response (r : Response)
  | ping
  | close
  deriving DecidableEq, Repr

/-- What comes next in a call that ends a session: to claim the end, to give the signal, or to leave
the registry. Who comes second with the claim does no more. -/
inductive Teardown where
  | claim
  | signal
  | leave
  deriving DecidableEq, Repr

inductive Reader where
  | reading (deadline : Nat)
  | ending (next : Teardown)
  | finished
  deriving DecidableEq, Repr

inductive Dispatching where
  | idle
  | handling (f : Frame)
  | holding (r : Response)
  | closing
  | ending (next : Teardown)
  | finished
  deriving DecidableEq, Repr

inductive Writer where
  | waiting (tick : Nat)
  | sending (tick : Nat)
  | parting (until_ : Nat)
  | ending (next : Teardown)
  | finished
  deriving DecidableEq, Repr

structure Limits where
  readDeadline : Nat
  pingInterval : Nat
  inbound : Nat
  outbound : Nat
  deriving DecidableEq, Repr

def Limits.ofConfig (c : SessionConfig) : Limits :=
  ⟨c.readDeadline * 1000,c.pingInterval * 1000,c.inboundCapacity,c.outboundCapacity⟩

inductive Task where
  | reader
  | dispatcher
  | writer
  deriving DecidableEq, Repr

def partingTime : Nat := 1000

def pingTolerance : Nat := 5

end Session

structure Session where
  id : Session.Id
  limits : Session.Limits
  now : Nat
  alive : Bool
  signalled : Bool
  reader : Session.Reader
  dispatching : Session.Dispatching
  writer : Session.Writer
  inbound : List Frame
  outbound : List Response
  calls : List Session.Teardown
  dispatcher : Dispatcher
  events : List Event
  handed : List Session.Outgoing
  deriving DecidableEq, Repr

namespace Session

def maxCapacity : Nat := Bits.count 61 - 1

def maxTime : Nat := (Bits.count 63 - 1) * 1000

def isCapacity (n : Nat) : Bool := 0 < n && n ≤ maxCapacity

def Limits.hasQueues (l : Limits) : Bool := isCapacity l.inbound && isCapacity l.outbound

def Limits.hasPings (l : Limits) (now : Nat) : Bool :=
  0 < l.pingInterval && now + l.pingInterval < maxTime

/-- A reader that waits for a pong from some time on; where its deadline cannot be counted, it ends. -/
def Limits.awaitPong (l : Limits) (now : Nat) : Reader :=
  if now + l.readDeadline < maxTime then .reading (now + l.readDeadline) else .finished

def initial (id : Id) (l : Limits) (now : Nat) : Session where
  id := id
  limits := l
  now := now
  alive := true
  signalled := false
  reader := l.awaitPong now
  dispatching := .idle
  writer := if l.hasPings now then .waiting (now + l.pingInterval) else .finished
  inbound := []
  outbound := []
  calls := []
  dispatcher := .initial
  events := []
  handed := []

inductive StartFault where
  | alreadyRegistered
  | noQueues
  deriving DecidableEq, Repr

def start (r : Registry) (id : Id) (l : Limits) (now : Nat) (at_ : Instant) :
    Registry × Except StartFault Session :=
  match r.register id at_ with
  | (r, false) => (r,.error .alreadyRegistered)
  | (r, true) => (r,if l.hasQueues then .ok (initial id l now) else .error .noQueues)

def Task.isFinished (s : Session) : Task → Bool
  | .reader => s.reader = .finished
  | .dispatcher => s.dispatching = .finished
  | .writer => s.writer = .finished

def tasksFinished (s : Session) : Bool :=
  s.reader = .finished && s.dispatching = .finished && s.writer = .finished

end Session
end Querent
