import Querent.Session.Connection

/-! Attending a session. An attendant holds a handle to each task of a session and waits for them, the
last one first, until each has given its result. If meanwhile the signal is given on which all sessions
close, it breaks off the waiting, closes the session, and waits for the tasks that are left. -/
namespace Querent.Session

structure Shutdown where
  given : Bool
  dropped : Bool
  deriving DecidableEq, Repr

namespace Attendant

inductive Stage where
  | watching (listening : Bool)
  | closing
  | joining
  | returned
  deriving DecidableEq, Repr

inductive Act where
  | await
  | look
  | close
  deriving DecidableEq, Repr

inductive Note where
  | awaited (task : Task) (gave : Bool)
  | looked (given : Bool)
  | closed
  deriving DecidableEq, Repr

end Attendant

structure Attendant where
  stage : Attendant.Stage
  handles : List Task
  deriving DecidableEq, Repr

namespace Attendant

def initial : Attendant := ⟨.watching true,[.reader,.writer,.dispatcher]⟩

def await (finished : Task → Bool) (a : Attendant) : Option (Attendant × Note) :=
  match a.handles.getLast? with
  | none => none
  | some t =>
    if finished t then
      let left := a.handles.dropLast
      some (⟨if left.isEmpty then .returned else a.stage,left⟩,.awaited t true)
    else some (a,.awaited t false)

def act (finished : Task → Bool) (signal : Shutdown) (a : Attendant) : Act → Option (Attendant × Note)
  | .await => match a.stage with
    | .watching _ => a.await finished
    | .joining => a.await finished
    | _ => none
  | .look => match a.stage with
    | .watching true =>
      some ({ a with stage := if signal.given then .closing else .watching (!signal.dropped) },
        .looked signal.given)
    | _ => none
  | .close => match a.stage with
    | .closing => some ({ a with stage := .joining },.closed)
    | _ => none

end Attendant

structure Attended where
  connection : Connection
  signal : Shutdown
  attendant : Attendant

namespace Attended

def isFinished (c : Attended) (t : Task) : Bool := t.isFinished c.connection.session

def next (c : Attended) : Option Attendant.Act :=
  let gives := c.attendant.handles.getLast?.any c.isFinished
  match c.attendant.stage with
  | .watching listening =>
    if listening && (c.signal.given || c.signal.dropped) then some .look
    else if gives then some .await
    else none
  | .closing => some .close
  | .joining => if gives then some .await else none
  | .returned => none

def take (c : Attended) (a : Attendant.Act) : Attended :=
  match c.attendant.act c.isFinished c.signal a with
  | none => c
  | some (attendant, note) =>
    { c with
      attendant := attendant
      connection := if note = .closed then c.connection.close else c.connection }

def settle (c : Attended) : Attended :=
  (List.replicate 5 ()).foldl (fun c _ => (c.next.map c.take).getD c) c

def attend (c : Connection) : Attended := settle ⟨c,⟨false,false⟩,.initial⟩

def during (c : Attended) (happens : Connection → Connection) : Attended :=
  settle { c with connection := happens c.connection }

def shutdown (c : Attended) : Attended :=
  if c.signal.dropped then c else settle { c with signal := { c.signal with given := true } }

def drop (c : Attended) : Attended :=
  settle { c with signal := { c.signal with dropped := true } }

def hasReturned (c : Attended) : Bool := c.attendant.stage = .returned

end Attended
end Querent.Session
