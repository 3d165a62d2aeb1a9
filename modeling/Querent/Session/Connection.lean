import Querent.Session.Step

/-! A session with its client. The client hands over what it sends, reads when it likes, and may leave.
In between, the tasks take their steps until none is left to take: the reader before the writer, the
writer before the dispatcher, and calls from outside last. -/
namespace Querent.Session

structure Connection where
  rules : Dispatcher.Rules
  world : World
  window : Nat
  registry : Registry
  session : Session
  incoming : List Incoming
  read : Nat
  gone : Option Nat

namespace Connection

def hasRoom (c : Connection) : Bool :=
  match c.gone with
  | none => c.session.handed.length ≤ c.read + c.window
  | some n => c.session.handed.length ≤ n

def isBroken (c : Connection) : Bool := c.gone.isSome && !c.hasRoom

def readerNext (c : Connection) : Option Action :=
  match c.session.reader with
  | .reading deadline => match c.incoming with
    | e :: _ => some (.receive c.world.now e)
    | [] =>
      if c.session.signalled then some .readerStops
      else if deadline ≤ c.session.now then some .readerExpires
      else none
  | .ending _ => some .readerEnds
  | .finished => none

def writerNext (c : Connection) : Option Action :=
  match c.session.writer with
  | .sending _ => if c.isBroken then some .sendFails else if c.hasRoom then some .sent else none
  | .waiting tick =>
    if c.session.signalled then some .part
    else if !c.session.outbound.isEmpty then some .write
    else if c.session.reader = .finished ∧ c.session.dispatching = .finished then some .writerStops
    else if tick ≤ c.session.now then some .ping
    else none
  | .parting until_ =>
    if c.isBroken || c.hasRoom || until_ ≤ c.session.now then some .parted else none
  | .ending _ => some .writerEnds
  | .finished => none

def dispatcherNext (c : Connection) : Option Action :=
  match c.session.dispatching with
  | .idle =>
    if c.session.dispatcherMayStop then some .dispatcherStops
    else if c.session.inbound.isEmpty then none
    else some .take
  | .handling _ => some (.answer c.world)
  | .holding _ =>
    if c.session.dispatcherMayStop then some .dispatcherStops
    else if c.session.outbound.length < c.session.limits.outbound then some .push
    else none
  | .closing => some .release
  | .ending _ => some .dispatcherEnds
  | .finished => none

def callNext (c : Connection) : Option Action :=
  if c.session.calls.isEmpty then none else some (.callEnds 0)

def next (c : Connection) : Option Action :=
  c.readerNext <|> c.writerNext <|> c.dispatcherNext <|> c.callNext

def take (c : Connection) (a : Action) : Connection :=
  match step c.rules c.registry c.session a with
  | none => c
  | some (registry, session) =>
    { c with registry := registry, session := session, incoming := match a with
      | .receive .. => c.incoming.drop 1
      | _ => c.incoming }

def takeUpTo : Nat → Connection → Connection
  | 0, c => c
  | n + 1, c => match c.next with
    | some a => takeUpTo n (c.take a)
    | none => c

/-- More steps than can be taken while time stands still: six for what is on its way, five for a frame
in the queue, two for a response, four for a call, and some for the tasks themselves. -/
def bound (c : Connection) : Nat :=
  6 * c.incoming.length + 5 * c.session.inbound.length + 2 * c.session.outbound.length
    + 4 * c.session.calls.length + 64

def settle (c : Connection) : Connection := takeUpTo c.bound c

def send (c : Connection) (sent : List Incoming) : Connection :=
  settle { c with incoming := c.incoming ++ sent }

def close (c : Connection) : Connection := settle (c.take .call)

def leave (c : Connection) : Connection :=
  settle { c with gone := c.gone <|> some c.session.handed.length }

def wakes (s : Session) : List Nat :=
  (match s.reader with
    | .reading deadline => [deadline]
    | _ => []) ++
  (match s.writer with
    | .waiting tick => [tick]
    | .parting until_ => [until_]
    | _ => [])

def nextWake (s : Session) (target : Nat) : Option Nat :=
  ((wakes s).filter fun t => s.now < t && t ≤ target).min?

def passTo (c : Connection) (t : Nat) : Connection := settle (c.take (.pass (t - c.session.now)))

def advanceTo (target : Nat) : Nat → Connection → Connection
  | 0, c => c.passTo target
  | n + 1, c => match nextWake c.session target with
    | some t => advanceTo target n (c.passTo t)
    | none => c.passTo target

def advance (c : Connection) (ms : Nat) : Connection :=
  advanceTo (c.session.now + ms) ms c

def readUpTo : Nat → Connection → Connection
  | 0, c => c
  | n + 1, c =>
    if c.read = c.session.handed.length then c
    else readUpTo n (settle { c with read := c.session.handed.length })

def readAll (c : Connection) : Connection × List Outgoing :=
  if c.gone.isSome then (c,[])
  else
    let last := readUpTo c.bound c
    (last,last.session.handed.drop c.read)

end Connection

def connect (rules : Dispatcher.Rules) (w : World) (window : Nat) (r : Registry) (id : Id)
    (l : Limits) : Except StartFault Connection :=
  match start r id l 0 w.now with
  | (r, .ok s) => .ok (Connection.settle ⟨rules,w,window,r,s,[],0,none⟩)
  | (_, .error fault) => .error fault

end Querent.Session
