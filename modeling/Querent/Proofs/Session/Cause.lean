import Querent.Proofs.Session.Capacity
import Querent.Proofs.Session.Sharing

/-! Why a session ends. The client closes it, the stream ends or fails, the read deadline passes, the
transport refuses a frame, or somebody outside closes it: each of these begins a call that ends the
session. Every other such call begins when the session is no longer alive, and finds nothing to do.

The exception is a session of which a task is gone, because its time cannot be counted: the reader when
it starts or when a pong arrives, the writer when it starts. The dispatcher misses the other end of a
queue then, and is the first to end the session. -/
namespace Querent.Session

def Limits.hasTimes (l : Limits) (now : Nat) : Bool :=
  now + l.readDeadline < maxTime && l.hasPings now

inductive Caller where
  | reader
  | dispatcher
  | writer
  | outside
  deriving DecidableEq, Repr

@[simp]
def Caller.calls (s : Session) : Caller → List Teardown
  | .reader => s.reader.ending?.toList
  | .dispatcher => s.dispatching.ending?.toList
  | .writer => s.writer.ending?.toList
  | .outside => s.calls

def Action.caller? : Action → Option Caller
  | .readerEnds => some .reader
  | .dispatcherEnds => some .dispatcher
  | .writerEnds => some .writer
  | .callEnds _ => some .outside
  | _ => none

namespace Taken

def isCause (t : Taken) : Bool :=
  match t.action with
  | .receive _ .close => true
  | .receive _ .failed => true
  | .receive _ .ended => true
  | .readerExpires => true
  | .sendFails => true
  | .call => true
  | _ => false

def begins (t : Taken) (c : Caller) : Prop :=
  (c.calls t.before.2).length < (c.calls t.after.2).length

def isOrdinary (t : Taken) : Bool :=
  match t.action with
  | .receive _ (.text _) => true
  | .receive _ (.binary _) => true
  | .receive _ .ping => true
  | .receive _ .pong => true
  | .answer _ => true
  | _ => false

def counts (t : Taken) : Bool :=
  match t.action with
  | .receive _ .pong => t.before.2.now + t.before.2.limits.readDeadline < maxTime
  | _ => true

end Taken

/-- All times that a session waits for in the course of some steps can be counted. -/
def Measured (l : Limits) (now : Nat) (trace : List Taken) : Prop :=
  l.hasTimes now = true ∧ ∀ t ∈ trace, t.counts = true

theorem Measured.before {l : Limits} {now : Nat} {trace later : List Taken}
    (counted : Measured l now (trace ++ later)) : Measured l now trace :=
  ⟨counted.1,fun t member => counted.2 t (List.mem_append_left _ member)⟩

section Steps
variable {rules : Dispatcher.Rules} {r r' : Registry} {s s' : Session} {a : Action}

theorem callerOfTears {t : Teardown} (tears : a.tears? s = some t) :
    ∃ c, a.caller? = some c ∧ t ∈ c.calls s := by
  cases a with
  | readerEnds => exact ⟨.reader,rfl,by simpa [Action.tears?] using tears⟩
  | dispatcherEnds => exact ⟨.dispatcher,rfl,by simpa [Action.tears?] using tears⟩
  | writerEnds => exact ⟨.writer,rfl,by simpa [Action.tears?] using tears⟩
  | callEnds index => exact ⟨.outside,rfl,List.mem_of_getElem? tears⟩
  | _ => cases tears

theorem endedByTorn {t : Teardown} {alive signalled next} (lifeline : Lifeline s)
    (member : t ∈ s.running) (torn : Torn r s t r' alive signalled next) : alive = false := by
  cases torn with
  | claims | late => rfl
  | signals => exact (lifeline.signalling member).1
  | leaves => exact lifeline.ended (lifeline.leaving member)

theorem aliveBefore (move : Move rules r s a r' s') (alive : s'.alive = true) : s.alive = true := by
  cases living : s.alive with
  | true => rfl
  | false => exact Bool.noConfusion (alive.symm.trans (aliveMove move living))

theorem advanceAlive (lifeline : Lifeline s) (move : Move rules r s a r' s')
    (alive : s'.alive = true) : a.tears? s = none := by
  have advance := advanceOfMove move
  generalize a.tears? s = step at advance
  cases advance with
  | tears torn ended signalled member counts =>
    have dead := endedByTorn lifeline member torn
    rw [ended,dead] at alive
    contradiction
  | other => rfl

theorem callerOfDeath (move : Move rules r s a r' s') (alive : s.alive = true)
    (dead : s'.alive = false) : ∃ c, a.caller? = some c ∧ c.calls s ≠ [] := by
  have advance := advanceOfMove move
  generalize tears : a.tears? s = step at advance
  cases advance with
  | tears torn ended signalled member counts =>
    obtain ⟨c,caller,here⟩ := callerOfTears tears
    exact ⟨c,caller,List.ne_nil_of_mem here⟩
  | other registry same signalled counts =>
    rw [same,alive] at dead
    contradiction

theorem beginsFrame {at_ : Instant} {e : Incoming} {f : Frame} {c : Caller}
    (arrived : e.frames at_ = [f])
    (begins : Taken.begins ⟨.receive at_ e,(r,s),(r,s.receive at_ e)⟩ c) :
    s.dispatching = .finished := by
  have received := receptionOf s at_ e
  rw [arrived] at received
  simp only [Taken.begins] at begins
  generalize s.receive at_ e = s' at received begins
  cases received with
  | lost finished => exact finished
  | queued | dropped => cases c <;> exact absurd begins (Nat.lt_irrefl _)

theorem beginsMove {c : Caller} (move : Move rules r s a r' s')
    (begins : Taken.begins ⟨a,(r,s),(r',s')⟩ c) :
    Taken.isCause ⟨a,(r,s),(r',s')⟩ = true ∨ s.dispatching = .finished ∨
      s.dispatching = .closing ∧ c = .dispatcher := by
  cases move with
  | @receive deadline at_ e reading =>
    cases e with
    | close | failed | ended => exact .inl rfl
    | text t => exact .inr (.inl (beginsFrame rfl begins))
    | binary octets => exact .inr (.inl (beginsFrame rfl begins))
    | ping => exact absurd begins (Nat.lt_irrefl _)
    | pong => cases c <;> simp [Taken.begins,receive,reading,-Reader.ending?] at begins
  | readerExpires | sendFails | call => exact .inl rfl
  | writerStops waiting empty noReader noDispatcher => exact .inr (.inl noDispatcher)
  | release closing =>
    cases c with
    | dispatcher => exact .inr (.inr ⟨closing,rfl⟩)
    | _ => exact absurd begins (Nat.lt_irrefl _)
  | @readerEnds t r' alive signalled next ending torn =>
    cases c <;> cases next <;> simp [Taken.begins,ending] at begins
  | @dispatcherEnds t r' alive signalled next ending torn =>
    cases c <;> cases next <;> simp [Taken.begins,ending] at begins
  | @writerEnds t r' alive signalled next ending torn =>
    cases c <;> cases next <;> simp [Taken.begins,ending] at begins
  | @callEnds index t r' alive signalled next calling torn =>
    cases c <;> cases next <;> simp [Taken.begins] at begins
    rw [List.length_eraseIdx] at begins
    split at begins <;> omega
  | readerStops held | take held | answer held | push held | abandon held | dispatcherStops held
  | write held | ping held | sent held | part held | parted held =>
    cases c <;> simp [Taken.begins,held] at begins
  | pass => exact absurd begins (Nat.lt_irrefl _)

end Steps

structure Sustained (s : Session) (trace : List Taken) : Prop where
  reader : s.alive = true → s.reader ≠ .finished
  writer : s.alive = true → s.writer ≠ .finished
  parting : ∀ {until_}, s.writer = .parting until_ → s.signalled = true
  serving : s.alive = true → s.dispatching.serves = true
  begun : s.alive = true → ∀ c, c.calls s ≠ [] → ∃ b ∈ trace, b.isCause = true ∧ b.begins c
  ended : s.alive = false → ∃ b ∈ trace, b.isCause = true

theorem sustainedInitial {l : Limits} {now : Nat} (id : Id) (times : l.hasTimes now = true) :
    Sustained (initial id l now) [] := by
  simp only [Limits.hasTimes,Bool.and_eq_true,decide_eq_true_eq] at times
  refine ⟨?_,?_,?_,fun _ => rfl,?_,fun dead => by cases dead⟩
  · simp [initial,Limits.awaitPong,times]
  · simp [initial,times]
  · simp [initial,times]
  · intro _ c
    cases c <;> simp [initial,Limits.awaitPong,times]

section Runs
variable {rules : Dispatcher.Rules} {id : Id} {l : Limits} {now : Nat} {s : Session}
  {trace : List Taken}

theorem sustainedTasks {r r' : Registry} {s' : Session} {a : Action} (lifeline : Lifeline s)
    (before : Sustained s trace) (move : Move rules r s a r' s')
    (counts : Taken.counts ⟨a,(r,s),(r',s')⟩ = true) (alive : s'.alive = true) :
    s'.reader ≠ .finished ∧ s'.writer ≠ .finished ∧ s'.dispatching.serves = true := by
  have living := aliveBefore move alive
  have quiet : s.signalled ≠ true := fun given =>
    Bool.noConfusion (living.symm.trans (lifeline.ended given))
  have none := advanceAlive lifeline move alive
  have reader := before.reader living
  have writer := before.writer living
  have serving := before.serving living
  cases move with
  | @receive _ at_ e reading =>
    obtain ⟨reader',inbound,outbound,same⟩ := receiveFrame s at_ e
    have kept := receiveReader reading at_ e
    rw [same] at kept ⊢
    refine ⟨?_,writer,serving⟩
    rcases kept with ⟨late,kept⟩ | kept | ⟨rfl,uncounted,_⟩
    · exact fun finished => Reader.noConfusion (kept.symm.trans finished)
    · exact fun finished => Reader.noConfusion (kept.symm.trans finished)
    · exact absurd (of_decide_eq_true counts) uncounted
  | readerStops _ given | part _ given => exact absurd given quiet
  | readerExpires => exact ⟨by simp,writer,serving⟩
  | take | answer | push => exact ⟨reader,writer,rfl⟩
  | abandon _ lost => exact absurd lost (not_or.mpr ⟨quiet,writer⟩)
  | dispatcherStops _ done => exact absurd done (not_or.mpr ⟨quiet,fun empty => reader empty.2⟩)
  | release closing =>
    rw [closing] at serving
    contradiction
  | write | ping | sent | sendFails => exact ⟨reader,by simp,serving⟩
  | parted parting => exact absurd (before.parting parting) quiet
  | writerStops _ _ noReader => exact absurd noReader reader
  | readerEnds ending | dispatcherEnds ending | writerEnds ending =>
    simp [Action.tears?,ending] at none
  | callEnds calling =>
    rw [Action.tears?,calling] at none
    contradiction
  | call | pass => exact ⟨reader,writer,serving⟩

theorem partingMove {r r' : Registry} {s' : Session} {a : Action} {until_ : Nat}
    (before : ∀ {until_}, s.writer = .parting until_ → s.signalled = true)
    (move : Move rules r s a r' s') (parting : s'.writer = .parting until_) :
    s'.signalled = true := by
  have kept : s.writer = .parting until_ → s'.signalled = true :=
    fun same => signalledMove move (before same)
  cases move with
  | @receive _ at_ e reading =>
    obtain ⟨reader,inbound,outbound,same⟩ := receiveFrame s at_ e
    rw [same] at parting kept ⊢
    exact kept parting
  | part waiting given => exact given
  | @writerEnds t r' alive signalled next ending torn => cases next <;> cases parting
  | write | ping | sent | sendFails | parted | writerStops => cases parting
  | _ => exact kept parting

theorem begunMove {r r' : Registry} {s' : Session} {a : Action} {c : Caller}
    (lifeline : Lifeline s) (before : Sustained s trace) (move : Move rules r s a r' s')
    (alive : s'.alive = true) (calls : c.calls s' ≠ []) :
    ∃ b ∈ trace ++ [⟨a,(r,s),(r',s')⟩], b.isCause = true ∧ b.begins c := by
  have living := aliveBefore move alive
  by_cases begins : Taken.begins ⟨a,(r,s),(r',s')⟩ c
  · rcases beginsMove move begins with cause | finished | ⟨closing,_⟩
    · exact ⟨_,by simp,cause,begins⟩
    · exact Bool.noConfusion (living.symm.trans (lifeline.dispatcher finished))
    · have serving := before.serving living
      rw [closing] at serving
      contradiction
  · have some := List.length_pos_iff.mpr calls
    have earlier : c.calls s ≠ [] :=
      List.length_pos_iff.mp (Nat.lt_of_lt_of_le some (Nat.le_of_not_lt begins))
    obtain ⟨b,member,found⟩ := before.begun living c earlier
    exact ⟨b,List.mem_append_left _ member,found⟩

theorem sustainedMove {r r' : Registry} {s' : Session} {a : Action} (lifeline : Lifeline s)
    (before : Sustained s trace) (move : Move rules r s a r' s')
    (counts : Taken.counts ⟨a,(r,s),(r',s')⟩ = true) :
    Sustained s' (trace ++ [⟨a,(r,s),(r',s')⟩]) := by
  have tasks := sustainedTasks lifeline before move counts
  refine ⟨fun alive => (tasks alive).1,fun alive => (tasks alive).2.1,partingMove before.parting move,
    fun alive => (tasks alive).2.2,fun alive c => begunMove lifeline before move alive,?_⟩
  intro dead
  cases living : s.alive with
  | true =>
    obtain ⟨c,_,calls⟩ := callerOfDeath move living dead
    obtain ⟨b,member,cause,_⟩ := before.begun living c calls
    exact ⟨b,List.mem_append_left _ member,cause⟩
  | false =>
    obtain ⟨b,member,cause⟩ := before.ended living
    exact ⟨b,List.mem_append_left _ member,cause⟩

theorem sustainedTraced (counted : Measured l now trace) (traced : Traced rules id l now s trace) :
    Sustained s trace := by
  induction traced with
  | start => exact sustainedInitial id counted.1
  | step before taken ih =>
    exact sustainedMove (keptTraced before).lifeline (ih counted.before) (moveOfStep taken)
      (counted.2 _ (by simp))

theorem tracedSplit {earlier later : List Taken} {t : Taken}
    (traced : Traced rules id l now s (earlier ++ t :: later)) :
    Traced rules id l now t.before.2 earlier ∧
      Move rules t.before.1 t.before.2 t.action t.after.1 t.after.2 := by
  generalize whole : earlier ++ t :: later = trace at traced
  induction traced generalizing later with
  | start => simp at whole
  | step before taken ih =>
    rcases List.eq_nil_or_concat later with rfl | ⟨rest,last,rfl⟩
    · obtain ⟨rfl,same⟩ := List.append_inj' whole rfl
      cases same
      exact ⟨before,moveOfStep taken⟩
    · rw [List.concat_eq_append,← List.cons_append,← List.append_assoc] at whole
      exact ih (List.append_inj' whole rfl).1

end Runs

structure EndsForCause (l : Limits) (now : Nat) (s : Session) (trace : List Taken) : Prop where
  caused : Measured l now trace → s.alive = false → ∃ t ∈ trace, t.isCause = true
  first : ∀ earlier t later, trace = earlier ++ t :: later → Measured l now earlier →
    t.dies = true → ∃ c, t.action.caller? = some c ∧ ∃ b ∈ earlier, b.isCause = true ∧ b.begins c
  late : ∀ earlier t later, trace = earlier ++ t :: later → ∀ c, t.begins c → t.isCause = false →
    (c = .dispatcher → Measured l now earlier) → t.before.2.alive = false
  ordinary : ∀ t ∈ trace, t.isOrdinary = true → t.before.2.alive = true →
    t.after.2.alive = true ∧ t.after.2.running = t.before.2.running

theorem ordinaryMove {rules : Dispatcher.Rules} {r r' : Registry} {s s' : Session} {a : Action}
    (lifeline : Lifeline s) (move : Move rules r s a r' s')
    (ordinary : Taken.isOrdinary ⟨a,(r,s),(r',s')⟩ = true) (alive : s.alive = true) :
    s'.alive = true ∧ s'.running = s.running := by
  have serving : s.dispatching ≠ .finished := fun finished =>
    Bool.noConfusion (alive.symm.trans (lifeline.dispatcher finished))
  have frame (at_ : Instant) (f : Frame) :
      (s.enqueue at_ f).alive = true ∧ (s.enqueue at_ f).running = s.running := by
    have received := receptionOfFrame s at_ f
    generalize s.enqueue at_ f = s' at received
    cases received with
    | lost finished => exact absurd finished serving
    | queued | dropped => exact ⟨alive,rfl⟩
  cases move with
  | @receive deadline at_ e reading =>
    cases e with
    | text t => exact frame at_ _
    | binary octets => exact frame at_ _
    | ping => exact ⟨alive,rfl⟩
    | pong =>
      refine ⟨alive,?_⟩
      simp only [receive,running,awaitPongEnding,reading]
      rfl
    | close | failed | ended => contradiction
  | answer handling => exact ⟨alive,by simp [running,handling]⟩
  | _ => contradiction

theorem endsOnlyForCause {rules : Dispatcher.Rules} {id : Id} {l : Limits} {now : Nat} {s : Session}
    {trace : List Taken} (traced : Traced rules id l now s trace) : EndsForCause l now s trace := by
  refine ⟨fun counted => (sustainedTraced counted traced).ended,?_,?_,?_⟩
  · rintro earlier t later rfl counted dies
    obtain ⟨before,move⟩ := tracedSplit traced
    simp only [Taken.dies,Bool.and_eq_true,Bool.not_eq_true'] at dies
    obtain ⟨c,caller,calls⟩ := callerOfDeath move dies.1 dies.2
    exact ⟨c,caller,(sustainedTraced counted before).begun dies.1 c calls⟩
  · rintro earlier t later rfl c begins noCause counted
    obtain ⟨before,move⟩ := tracedSplit traced
    rcases beginsMove move begins with cause | finished | ⟨closing,here⟩
    · exact Bool.noConfusion (noCause.symm.trans cause)
    · exact (keptTraced before).lifeline.dispatcher finished
    · cases alive : t.before.2.alive with
      | false => rfl
      | true =>
        have serving := (sustainedTraced (counted here) before).serving alive
        rw [closing] at serving
        contradiction
  · intro t member ordinary alive
    obtain ⟨kept,move⟩ := movesTraced traced t member
    exact ordinaryMove kept.lifeline move ordinary alive

theorem endedByTransport :
    ∃ rules s trace t, Traced rules "a" ⟨60000,50000,1,1⟩ 0 s (trace ++ [t]) ∧
      trace.countP Taken.isOrdinary = 3 ∧ Measured ⟨60000,50000,1,1⟩ 0 (trace ++ [t]) ∧
      t.dies = true ∧ EndsForCause ⟨60000,50000,1,1⟩ 0 s (trace ++ [t]) := by
  let at_ : Instant := ⟨0,0⟩
  let rules : Dispatcher.Rules := ⟨⟨⟨[]⟩,1⟩,""⟩
  let r : Registry := .empty
  have failed : Traced rules "a" ⟨60000,50000,1,1⟩ 0 _ _ :=
    .step (r := r) (a := .receive at_ .failed) (.step (r := r) (a := .receive at_ (.text "second"))
      (.step (r := r) (a := .receive at_ (.text "first"))
        (.step (r := r) (a := .receive at_ .pong) .start rfl) rfl) rfl) rfl
  have ended := Traced.step (r := r) (a := .readerEnds) failed rfl
  exact ⟨rules,_,_,_,ended,rfl,⟨by decide,by decide⟩,rfl,endsOnlyForCause ended⟩

/-- Where the reader cannot count its deadline, the dispatcher ends the session, though there was no
cause. -/
theorem endsWithoutReader (rules : Dispatcher.Rules) (id : Id) {l : Limits} {now : Nat}
    (uncounted : maxTime ≤ now + l.readDeadline) :
    ∃ s trace, Traced rules id l now s trace ∧ s.alive = false ∧
      ∀ t ∈ trace, t.isCause = false := by
  have noReader : (initial id l now).reader = .finished := if_neg (Nat.not_lt.mpr uncounted)
  have mayStop : (initial id l now).dispatcherMayStop = true := by
    simp only [dispatcherMayStop,initial] at noReader ⊢
    simp [noReader]
  have stopped : step rules .empty (initial id l now) .dispatcherStops =
      some (.empty,{ initial id l now with dispatching := .closing }) := if_pos mayStop
  have ended := Traced.step (r := .empty) (a := .dispatcherEnds) (.step (r := .empty) (a := .release)
    (.step (r := .empty) .start stopped) rfl) rfl
  exact ⟨_,_,ended,rfl,by simp [Taken.isCause]⟩

theorem endsWithoutCause :
    ∃ (c : Config) (rules : Dispatcher.Rules) (s : Session) (trace : List Taken),
      c.session.readDeadline = 9223372036854775807 ∧ c.problem? = none ∧
      Traced rules "a" (.ofConfig c.session) 0 s trace ∧ s.alive = false ∧
      ∀ t ∈ trace, t.isCause = false := by
  let c : Config := { session := { readDeadline := 9223372036854775807 } }
  let rules : Dispatcher.Rules := ⟨⟨⟨[]⟩,1⟩,""⟩
  have uncounted : maxTime ≤ 0 + (Limits.ofConfig c.session).readDeadline := by decide
  obtain ⟨s,trace,ended⟩ := endsWithoutReader rules "a" uncounted
  exact ⟨c,rules,s,trace,rfl,by decide +kernel,ended⟩

end Querent.Session
