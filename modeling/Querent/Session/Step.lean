import Querent.Session.Basic

/-! The steps of a session. Tasks and callers take steps in any order; each step is small enough that
nothing else can happen in the middle of it. -/
namespace Querent.Session

inductive Action where
  | receive (at_ : Instant) (e : Incoming)
  | readerStops
  | readerExpires
  | readerEnds
  | take
  | answer (w : World)
  | push
  | dispatcherStops
  | release
  | dispatcherEnds
  | write
  | ping
  | sent
  | sendFails
  | part
  | parted
  | writerStops
  | writerEnds
  | call
  | callEnds (index : Nat)
  | pass (ms : Nat)

def tear (r : Registry) (s : Session) : Teardown → Registry × Session × Option Teardown
  | .claim => if s.alive then (r,{ s with alive := false },some .signal) else (r,s,none)
  | .signal => (r,{ s with signalled := true },some .leave)
  | .leave => ((r.unregister s.id).1,s,none)

def busy (at_ : Instant) : Response :=
  ⟨Response.busyKind,false,
    "server busy: message dropped, retry after pending requests complete",at_⟩

/-- Queues a frame, or drops it if the queue is full and says so if there is room for that. Queues are
taken for plain bounded ones, first in, first out: a place is free until something is in it, also one
that has been promised already to a dispatcher that waits for room. -/
def enqueue (s : Session) (at_ : Instant) (f : Frame) : Session :=
  if s.dispatching = .finished then { s with reader := .ending .claim }
  else if s.inbound.length < s.limits.inbound then { s with inbound := s.inbound ++ [f] }
  else if s.writer ≠ .finished ∧ s.outbound.length < s.limits.outbound then
    { s with outbound := s.outbound ++ [busy at_] }
  else s

def receive (s : Session) (at_ : Instant) : Incoming → Session
  | .text t => s.enqueue at_ (.read t at_)
  | .binary octets => s.enqueue at_ (.readOctets octets at_)
  | .ping => s
  | .pong => { s with reader := s.limits.awaitPong s.now }
  | .close => { s with reader := .ending .claim }
  | .failed => { s with reader := .ending .claim }
  | .ended => { s with reader := .ending .claim }

def nextTick (s : Session) (tick : Nat) : Nat :=
  (if tick + pingTolerance < s.now then s.now else tick) + s.limits.pingInterval

def hand (s : Session) (o : Outgoing) : Session := { s with handed := s.handed ++ [o] }

def dispatcherMayStop (s : Session) : Bool :=
  match s.dispatching with
  | .idle => s.signalled || (s.inbound.isEmpty && s.reader == .finished)
  | .holding _ => s.signalled || s.writer == .finished
  | _ => false

def step (rules : Dispatcher.Rules) (r : Registry) (s : Session) : Action → Option (Registry × Session)
  | .receive at_ e => match s.reader with
    | .reading _ => some (r,s.receive at_ e)
    | _ => none
  | .readerStops => match s.reader with
    | .reading _ => if s.signalled then some (r,{ s with reader := .finished }) else none
    | _ => none
  | .readerExpires => match s.reader with
    | .reading deadline =>
      if deadline ≤ s.now then some (r,{ s with reader := .ending .claim }) else none
    | _ => none
  | .readerEnds => match s.reader with
    | .ending t =>
      let (r, s, next) := tear r s t
      some (r,{ s with reader := (next.map .ending).getD .finished })
    | _ => none
  | .take => match s.dispatching, s.inbound with
    | .idle, f :: rest =>
      if s.signalled then none
      else some (r,{ s with dispatching := .handling f, inbound := rest })
    | _, _ => none
  | .answer w => match s.dispatching with
    | .handling f =>
      let o := s.dispatcher.dispatch rules w f
      some (r,{ s with
        dispatching := .holding o.response
        dispatcher := o.state
        events := s.events ++ o.events })
    | _ => none
  | .push => match s.dispatching with
    | .holding response =>
      if s.signalled || s.writer == .finished || s.limits.outbound ≤ s.outbound.length then none
      else some (r,{ s with dispatching := .idle, outbound := s.outbound ++ [response] })
    | _ => none
  | .dispatcherStops =>
    if s.dispatcherMayStop then some (r,{ s with dispatching := .closing }) else none
  | .release => match s.dispatching with
    | .closing =>
      some (r,{ s with dispatching := .ending .claim, dispatcher := s.dispatcher.shutdown })
    | _ => none
  | .dispatcherEnds => match s.dispatching with
    | .ending t =>
      let (r, s, next) := tear r s t
      some (r,{ s with dispatching := (next.map .ending).getD .finished })
    | _ => none
  | .write => match s.writer, s.outbound with
    | .waiting tick, response :: rest =>
      some (r,{ s.hand (.response response) with writer := .sending tick, outbound := rest })
    | _, _ => none
  | .ping => match s.writer with
    | .waiting tick =>
      if tick ≤ s.now then some (r,{ s.hand .ping with writer := .sending (s.nextTick tick) })
      else none
    | _ => none
  | .sent => match s.writer with
    | .sending tick => some (r,{ s with writer := .waiting tick })
    | _ => none
  | .sendFails => match s.writer with
    | .sending _ => some (r,{ s with writer := .ending .claim })
    | _ => none
  | .part => match s.writer with
    | .waiting _ =>
      if s.signalled then some (r,{ s.hand .close with writer := .parting (s.now + partingTime) })
      else none
    | _ => none
  | .parted => match s.writer with
    | .parting _ => some (r,{ s with writer := .finished })
    | _ => none
  | .writerStops => match s.writer with
    | .waiting _ =>
      if s.outbound.isEmpty && s.reader == .finished && s.dispatching == .finished then
        some (r,{ s with writer := .ending .claim })
      else none
    | _ => none
  | .writerEnds => match s.writer with
    | .ending t =>
      let (r, s, next) := tear r s t
      some (r,{ s with writer := (next.map .ending).getD .finished })
    | _ => none
  | .call => some (r,{ s with calls := s.calls ++ [.claim] })
  | .callEnds index => match s.calls[index]? with
    | some t =>
      let (r, s, next) := tear r s t
      some (r,{ s with calls := match next with
        | some t => s.calls.set index t
        | none => s.calls.eraseIdx index })
    | none => none
  | .pass ms => some (r,{ s with now := s.now + ms })

def run (rules : Dispatcher.Rules) : Registry → Session → List Action → Option (Registry × Session)
  | r, s, [] => some (r,s)
  | r, s, a :: rest => match step rules r s a with
    | some (r, s) => run rules r s rest
    | none => none

end Querent.Session
