import Querent.Proofs.Session.Cause

/-! Pings and the read deadline. A ping is due at fixed intervals, and each pong moves the deadline. A
client that answers every ping soon enough never lets the deadline pass: the deadline is always at least
one read deadline after a beat, which is the start of the session or a ping, and the pong for the next
beat comes before that time is over.

Tasks take no time here, and the transport takes frames in no time. Only what the dispatcher does may
last. -/
namespace Querent.Session

def Limits.patience (l : Limits) : Nat := l.readDeadline - l.pingInterval

def Reader.waits : Reader → Bool
  | .reading _ => true
  | _ => false

/-- Whether so much time may pass before anything else happens. No ping becomes late, the transport
has taken what it was given, no call is in the middle of ending the session, and the reader has seen
the signal if there is one. -/
def rests (s : Session) (ms : Nat) : Bool :=
  (match s.writer with
    | .waiting tick => s.now + ms ≤ tick
    | .sending _ => false
    | _ => true) && s.running.isEmpty && !(s.signalled && s.reader.waits)

namespace Taken

def isTimely (t : Taken) : Bool :=
  match t.action with
  | .pass ms => t.before.2.rests ms
  | _ => true

def pings (t : Taken) : Bool :=
  match t.action with
  | .ping => true
  | _ => false

def pongs (t : Taken) : Bool :=
  match t.action with
  | .receive _ .pong => true
  | _ => false

end Taken

def answersPings (patience now : Nat) : List Taken → Bool
  | [] => true
  | t :: later =>
    (!t.pings || now < t.before.2.now + patience ||
      later.any fun p => p.pongs && p.before.2.now < t.before.2.now + patience) &&
    answersPings patience now later

theorem answersBefore {patience now now' : Nat} {trace : List Taken} {t : Taken} (later : now ≤ now')
    (here : t.before.2.now = now) (answered : answersPings patience now' (trace ++ [t]) = true) :
    answersPings patience now trace = true := by
  induction trace with
  | nil => rfl
  | cons u rest ih =>
    simp only [List.cons_append,answersPings,Bool.and_eq_true,Bool.or_eq_true,decide_eq_true_eq,
      List.any_append,List.any_cons,List.any_nil,Bool.or_false] at answered ⊢
    obtain ⟨first,others⟩ := answered
    refine ⟨?_,ih others⟩
    rcases first with (quiet | early) | (inside | ⟨_,inTime⟩)
    · exact .inl (.inl quiet)
    · exact .inl (.inr (Nat.lt_of_le_of_lt later early))
    · exact .inr inside
    · exact .inl (.inr (by omega))

theorem pongOfPing {patience now : Nat} {trace : List Taken}
    (ordered : trace.Pairwise fun t u => t.before.2.now ≤ u.before.2.now)
    (answered : answersPings patience now trace = true) {t : Taken} (member : t ∈ trace)
    (ping : t.pings = true) (waited : t.before.2.now + patience ≤ now) :
    ∃ p ∈ trace, p.pongs = true ∧ t.before.2.now ≤ p.before.2.now := by
  induction trace with
  | nil => cases member
  | cons u rest ih =>
    obtain ⟨after,ordered⟩ := List.pairwise_cons.mp ordered
    simp only [answersPings,Bool.and_eq_true,Bool.or_eq_true,decide_eq_true_eq,Bool.not_eq_true',
      List.any_eq_true] at answered
    obtain ⟨first,others⟩ := answered
    rcases List.mem_cons.mp member with rfl | inside
    · rcases first with (quiet | early) | ⟨p,inside,pong,_⟩
      · exact Bool.noConfusion (quiet.symm.trans ping)
      · omega
      · exact ⟨p,List.mem_cons_of_mem _ inside,pong,after p inside⟩
    · obtain ⟨p,found,pong⟩ := ih ordered others inside
      exact ⟨p,List.mem_cons_of_mem _ found,pong⟩

def Beat (start : Nat) (trace : List Taken) (time : Nat) : Prop :=
  time = start ∨ ∃ t ∈ trace, t.pings = true ∧ t.before.2.now = time

def ticks (s : Session) (tick : Nat) : Prop := s.writer = .waiting tick ∨ s.writer = .sending tick

structure Keepalive (l : Limits) (start : Nat) (s : Session) (trace : List Taken) : Prop where
  started : start ≤ s.now
  past : ∀ t ∈ trace, t.before.2.now ≤ s.now
  ordered : trace.Pairwise fun t u => t.before.2.now ≤ u.before.2.now
  extended : ∀ deadline, s.reader = .reading deadline → start + l.readDeadline ≤ deadline ∧
    ∀ p ∈ trace, p.pongs = true → p.before.2.now + l.readDeadline ≤ deadline
  beats : ∀ tick, s.ticks tick → s.now ≤ tick ∧
    ∀ beat, Beat start trace beat →
      Beat start trace (beat + l.pingInterval) ∨ tick = beat + l.pingInterval

theorem Keepalive.inTime {l : Limits} {start tick deadline : Nat} {s : Session} {trace : List Taken}
    (keepalive : Keepalive l start s trace) (pinging : 0 < l.pingInterval)
    (shorter : l.pingInterval < l.readDeadline)
    (answered : answersPings l.patience s.now trace = true)
    (loop : s.ticks tick) (reading : s.reader = .reading deadline) : s.now < deadline := by
  obtain ⟨soon,beats⟩ := keepalive.beats tick loop
  obtain ⟨first,pongs⟩ := keepalive.extended deadline reading
  -- From beat to beat, up to the last one whose time is not over.
  have from_ (n : Nat) : ∀ beat, Beat start trace beat → beat + l.readDeadline ≤ deadline →
      s.now ≤ beat + n → s.now < deadline := by
    induction n using Nat.strongRecOn with
    | ind n ih =>
      intro beat known reaches near
      by_cases inTime : s.now < beat + l.readDeadline
      · omega
      · have next : Beat start trace (beat + l.pingInterval) := by
          rcases beats beat known with next | last
          · exact next
          · omega
        refine ih (n - l.pingInterval) (by omega) _ next ?_ (by omega)
        rcases next with same | ⟨t,member,ping,same⟩
        · omega
        · have waited : t.before.2.now + l.patience ≤ s.now := by
            unfold Limits.patience
            omega
          obtain ⟨p,inside,pong,after⟩ := pongOfPing keepalive.ordered answered member ping waited
          have moved := pongs p inside pong
          omega
  exact from_ s.now start (.inl rfl) first (Nat.le_add_left _ _)

section Steps
variable {rules : Dispatcher.Rules} {r r' : Registry} {s s' : Session} {a : Action}

theorem clockMove (move : Move rules r s a r' s') :
    s'.now = s.now ∨ ∃ ms, a = .pass ms ∧ s'.now = s.now + ms ∧ s'.writer = s.writer ∧
      s'.reader = s.reader := by
  cases move with
  | @receive _ at_ e reading =>
    obtain ⟨reader,inbound,outbound,same⟩ := receiveFrame s at_ e
    rw [same]
    exact .inl rfl
  | @pass ms => exact .inr ⟨ms,rfl,rfl,rfl,rfl⟩
  | _ => exact .inl rfl

theorem readingMove {deadline : Nat} (move : Move rules r s a r' s')
    (reading : s'.reader = .reading deadline) :
    let t : Taken := ⟨a,(r,s),(r',s')⟩
    t.pongs = false ∧ s.reader = .reading deadline ∨
      t.pongs = true ∧ deadline = s.now + s.limits.readDeadline := by
  have frame {at_ : Instant} {f : Frame} (reading : (s.enqueue at_ f).reader = .reading deadline) :
      s.reader = .reading deadline := by
    have received := receptionOfFrame s at_ f
    generalize s.enqueue at_ f = s' at received reading
    cases received with
    | lost => cases reading
    | queued | dropped => exact reading
  cases move with
  | @receive _ at_ e before =>
    cases e with
    | pong =>
      simp only [receive,Limits.awaitPong] at reading
      split at reading <;> cases reading
      exact .inr ⟨rfl,rfl⟩
    | text t => exact .inl ⟨rfl,frame reading⟩
    | binary octets => exact .inl ⟨rfl,frame reading⟩
    | ping => exact .inl ⟨rfl,reading⟩
    | close | failed | ended => cases reading
  | @readerEnds t r' alive signalled next ending torn => cases next <;> cases reading
  | readerStops | readerExpires => cases reading
  | _ => exact .inl ⟨rfl,reading⟩

theorem countsReading {deadline : Nat} (move : Move rules r s a r' s')
    (reading : s'.reader = .reading deadline) :
    ∃ due, s.reader = .reading due ∧ Taken.counts ⟨a,(r,s),(r',s')⟩ = true := by
  cases move with
  | @receive due at_ e before =>
    refine ⟨due,before,?_⟩
    cases e with
    | pong =>
      simp only [receive,Limits.awaitPong] at reading
      split at reading
      · rename_i counted
        exact decide_eq_true counted
      · cases reading
    | _ => rfl
  | @readerEnds t r' alive signalled next ending torn => cases next <;> cases reading
  | readerStops | readerExpires => cases reading
  | _ => exact ⟨deadline,reading,rfl⟩

theorem tickMove {tick : Nat} (move : Move rules r s a r' s') (loop : s'.ticks tick) :
    let t : Taken := ⟨a,(r,s),(r',s')⟩
    t.pings = false ∧ s.ticks tick ∨
      t.pings = true ∧ ∃ due, s.writer = .waiting due ∧ due ≤ s.now ∧ tick = s.nextTick due := by
  cases move with
  | @receive _ at_ e before =>
    obtain ⟨reader,inbound,outbound,same⟩ := receiveFrame s at_ e
    rw [same] at loop
    exact .inl ⟨rfl,loop⟩
  | write waiting =>
    rcases loop with loop | loop <;> cases loop
    exact .inl ⟨rfl,.inl waiting⟩
  | ping waiting due =>
    rcases loop with loop | loop <;> cases loop
    exact .inr ⟨rfl,_,waiting,due,rfl⟩
  | sent sending =>
    rcases loop with loop | loop <;> cases loop
    exact .inl ⟨rfl,.inr sending⟩
  | sendFails | part | parted | writerStops => rcases loop with loop | loop <;> cases loop
  | @writerEnds t r' alive signalled next ending torn =>
    cases next <;> rcases loop with loop | loop <;> cases loop
  | _ => exact .inl ⟨rfl,loop⟩

end Steps

theorem beatSnoc {start time : Nat} {trace : List Taken} {t : Taken} :
    Beat start (trace ++ [t]) time ↔
      Beat start trace time ∨ t.pings = true ∧ t.before.2.now = time := by
  simp only [Beat,List.mem_append,List.mem_singleton,or_and_right,exists_or,exists_eq_left,or_assoc]

section Runs
variable {rules : Dispatcher.Rules} {l : Limits} {start : Nat} {s : Session} {trace : List Taken}

theorem clockBeforeTick {r r' : Registry} {s' : Session} {a : Action} {tick : Nat}
    (move : Move rules r s a r' s') (timely : Taken.isTimely ⟨a,(r,s),(r',s')⟩ = true)
    (loop : s.ticks tick) (soon : s.now ≤ tick) : s'.now ≤ tick := by
  rcases clockMove move with still | ⟨ms,rfl,passed,_⟩
  · rw [still]
    exact soon
  · simp only [Taken.isTimely,rests,Bool.and_eq_true] at timely
    rcases loop with waiting | sending
    · simp only [waiting,decide_eq_true_eq] at timely
      rw [passed]
      exact timely.1.1
    · simp [sending] at timely

theorem keepaliveInitial (id : Id) (l : Limits) (start : Nat) :
    Keepalive l start (initial id l start) [] := by
  refine ⟨Nat.le_refl _,by simp,.nil,?_,?_⟩
  · intro deadline reading
    simp only [initial,Limits.awaitPong] at reading
    split at reading <;> cases reading
    exact ⟨Nat.le_refl _,by simp⟩
  · intro tick loop
    simp only [ticks,initial] at loop
    split at loop
    · rcases loop with loop | loop <;> cases loop
      refine ⟨Nat.le_add_right _ _,?_⟩
      rintro beat (rfl | ⟨t,member,_⟩)
      · exact .inr rfl
      · cases member
    · rcases loop with loop | loop <;> cases loop

theorem keepaliveMove {r r' : Registry} {s' : Session} {a : Action} (limits : s.limits = l)
    (before : Keepalive l start s trace) (move : Move rules r s a r' s')
    (timely : Taken.isTimely ⟨a,(r,s),(r',s')⟩ = true) :
    Keepalive l start s' (trace ++ [⟨a,(r,s),(r',s')⟩]) := by
  obtain ⟨started,past,ordered,extended,beats⟩ := before
  have clock : s.now ≤ s'.now := by
    rcases clockMove move with still | ⟨ms,_,passed,_⟩
    · exact Nat.le_of_eq still.symm
    · exact passed ▸ Nat.le_add_right _ _
  refine ⟨Nat.le_trans started clock,?_,?_,?_,?_⟩
  · intro t member
    rcases List.mem_append.mp member with earlier | here
    · exact Nat.le_trans (past t earlier) clock
    · cases List.mem_singleton.mp here
      exact clock
  · refine List.pairwise_append.mpr ⟨ordered,List.pairwise_singleton _ _,?_⟩
    intro t earlier u here
    cases List.mem_singleton.mp here
    exact past t earlier
  · intro deadline reading
    rcases readingMove move reading with ⟨noPong,same⟩ | ⟨_,moved⟩
    · obtain ⟨first,pongs⟩ := extended deadline same
      refine ⟨first,?_⟩
      intro p member pong
      rcases List.mem_append.mp member with earlier | here
      · exact pongs p earlier pong
      · cases List.mem_singleton.mp here
        exact Bool.noConfusion (noPong.symm.trans pong)
    · rw [moved,limits]
      refine ⟨Nat.add_le_add_right started _,?_⟩
      intro p member _
      rcases List.mem_append.mp member with earlier | here
      · exact Nat.add_le_add_right (past p earlier) _
      · cases List.mem_singleton.mp here
        exact Nat.le_refl _
  · intro tick loop
    rcases tickMove move loop with ⟨noPing,same⟩ | ⟨ping,due,waiting,late,next⟩
    · obtain ⟨soon,known⟩ := beats tick same
      refine ⟨clockBeforeTick move timely same soon,?_⟩
      intro beat
      simp only [beatSnoc,noPing,Bool.false_eq_true,false_and,or_false]
      exact known beat
    · obtain ⟨soon,known⟩ := beats due (.inl waiting)
      have onTime : due = s.now := Nat.le_antisymm late soon
      have interval : tick = s.now + l.pingInterval := by
        rw [next,onTime,nextTick,if_neg (by omega),limits]
      have still : s'.now = s.now := by
        rcases clockMove move with still | ⟨ms,rfl,_⟩
        · exact still
        · cases ping
      refine ⟨by omega,?_⟩
      intro beat
      simp only [beatSnoc,ping,true_and]
      rintro (earlier | rfl)
      · rcases known beat earlier with next | last
        · exact .inl (.inl next)
        · exact .inl (.inr (by omega))
      · exact .inr interval

theorem loopsWhileReading {deadline ms : Nat} (lifeline : Lifeline s) (sustained : Sustained s trace)
    (may : s.rests ms = true) (reading : s.reader = .reading deadline) : ∃ tick, s.ticks tick := by
  simp only [rests,reading,Reader.waits,Bool.and_true,Bool.and_eq_true,List.isEmpty_iff,
    Bool.not_eq_true'] at may
  obtain ⟨⟨_,quiet⟩,unsignalled⟩ := may
  have signals := lifeline.signals
  rw [quiet,unsignalled] at signals
  have alive : s.alive = true := by
    cases living : s.alive with
    | true => rfl
    | false => simp [living] at signals
  cases writer : s.writer with
  | waiting tick => exact ⟨tick,.inl writer⟩
  | sending tick => exact ⟨tick,.inr writer⟩
  | parting until_ => exact Bool.noConfusion (unsignalled.symm.trans (sustained.parting writer))
  | ending t => simp [running,writer] at quiet
  | finished => exact absurd writer (sustained.writer alive)

end Runs

theorem countedReading {rules : Dispatcher.Rules} {id : Id} {l : Limits} {now deadline : Nat}
    {s : Session} {trace : List Taken} (traced : Traced rules id l now s trace)
    (reading : s.reader = .reading deadline) :
    now + l.readDeadline < maxTime ∧ ∀ t ∈ trace, t.counts = true := by
  induction traced generalizing deadline with
  | start =>
    simp only [initial,Limits.awaitPong] at reading
    split at reading
    · exact ⟨by assumption,by simp⟩
    · cases reading
  | @step s trace a r r' s' before taken ih =>
    obtain ⟨due,was,counts⟩ := countsReading (moveOfStep taken) reading
    obtain ⟨first,others⟩ := ih was
    refine ⟨first,?_⟩
    intro t member
    rcases List.mem_append.mp member with earlier | here
    · exact others t earlier
    · cases List.mem_singleton.mp here
      exact counts

theorem hasTimesOf {l : Limits} {now : Nat} (pinging : 0 < l.pingInterval)
    (shorter : l.pingInterval < l.readDeadline) (counted : now + l.readDeadline < maxTime) :
    l.hasTimes now = true := by
  simp only [Limits.hasTimes,Limits.hasPings,Bool.and_eq_true,decide_eq_true_eq]
  exact ⟨counted,pinging,by omega⟩

section Timed
variable {rules : Dispatcher.Rules} {id : Id} {l : Limits} {now : Nat} {s : Session}
  {trace : List Taken}

theorem keepaliveTraced (traced : Traced rules id l now s trace)
    (timely : ∀ t ∈ trace, t.isTimely = true) : Keepalive l now s trace := by
  induction traced with
  | start => exact keepaliveInitial id l now
  | step before taken ih =>
    refine keepaliveMove (keptTraced before).limits ?_ (moveOfStep taken) (timely _ (by simp))
    exact ih fun t member => timely t (List.mem_append_left _ member)

theorem inTimeTraced (pinging : 0 < l.pingInterval) (shorter : l.pingInterval < l.readDeadline)
    (traced : Traced rules id l now s trace) (timely : ∀ t ∈ trace, t.isTimely = true)
    (answered : answersPings l.patience s.now trace = true) :
    (∀ t ∈ trace, t.action ≠ .readerExpires) ∧
      ∀ deadline, s.reader = .reading deadline → s.now < deadline := by
  induction traced with
  | start =>
    refine ⟨by simp,?_⟩
    intro deadline reading
    simp only [initial,Limits.awaitPong] at reading ⊢
    split at reading <;> cases reading
    omega
  | @step s trace a r r' s' before taken ih =>
    have move := moveOfStep taken
    have kept := keptTraced before
    have keepalive := keepaliveTraced (.step before taken) timely
    have clock : s.now ≤ s'.now := keepalive.past ⟨a,(r,s),(r',s')⟩ (by simp)
    obtain ⟨none,inTime⟩ := ih (fun t member => timely t (List.mem_append_left _ member))
      (answersBefore clock rfl answered)
    constructor
    · intro t member
      rcases List.mem_append.mp member with earlier | here
      · exact none t earlier
      · cases List.mem_singleton.mp here
        rintro rfl
        cases move with
        | readerExpires reading late => exact Nat.not_lt.mpr late (inTime _ reading)
    · intro deadline reading
      rcases clockMove move with still | ⟨ms,rfl,_,sameWriter,sameReader⟩
      · rw [still]
        rcases readingMove move reading with ⟨_,same⟩ | ⟨_,moved⟩
        · exact inTime deadline same
        · rw [moved,kept.limits]
          omega
      · -- Only here time passes, and only while the writer is in its loop.
        have was : s.reader = .reading deadline := sameReader.symm.trans reading
        obtain ⟨first,pongs⟩ := countedReading before was
        have sustained := sustainedTraced ⟨hasTimesOf pinging shorter first,pongs⟩ before
        have may : s.rests ms = true := timely ⟨.pass ms,(r,s),(r',s')⟩ (by simp)
        obtain ⟨tick,loop⟩ := loopsWhileReading kept.lifeline sustained may was
        have loop' : s'.ticks tick := by
          unfold ticks
          rw [sameWriter]
          exact loop
        exact keepalive.inTime pinging shorter answered loop' reading

end Timed

theorem intervalsOfUsable {c : Config} (usable : c.problem? = none) :
    0 < c.session.pingInterval ∧ c.session.pingInterval < c.session.readDeadline := by
  by_cases never : c.session.pingInterval = 0
  · simp [Config.problem?,never] at usable
  by_cases longer : c.session.readDeadline ≤ c.session.pingInterval
  · simp [Config.problem?,never,longer] at usable
  omega

/-- In every run in which tasks and the transport take no time, a client that answers each ping with a
pong in less time than lies between the ping interval and the read deadline never lets the deadline
pass, whatever else it sends. -/
theorem deadlineNeverExpires {rules : Dispatcher.Rules} {c : Config} {id : Id} {now : Nat}
    {s : Session} {trace : List Taken} (usable : c.problem? = none)
    (traced : Traced rules id (.ofConfig c.session) now s trace)
    (timely : ∀ t ∈ trace, t.isTimely = true)
    (answered : answersPings (Limits.ofConfig c.session).patience s.now trace = true) :
    (∀ t ∈ trace, t.action ≠ .readerExpires) ∧
      ∀ deadline, s.reader = .reading deadline → s.now < deadline := by
  obtain ⟨positive,shorter⟩ := intervalsOfUsable usable
  refine inTimeTraced ?_ ?_ traced timely answered
  · exact Nat.mul_pos positive (by decide)
  · exact Nat.mul_lt_mul_of_pos_right shorter (by decide)

theorem answeredAtLastMoment :
    ∃ rules s trace, Traced rules "a" (.ofConfig ⟨3,2,1,1⟩) 0 s trace ∧
      (∀ t ∈ trace, t.isTimely = true) ∧ answersPings 1000 s.now trace = true ∧
      trace.countP Taken.pings = 2 ∧ s.reader = .reading 5999 ∧
      (∀ t ∈ trace, t.action ≠ .readerExpires) ∧ s.now < 5999 := by
  let rules : Dispatcher.Rules := ⟨⟨⟨[]⟩,1⟩,""⟩
  let r : Registry := .empty
  have due : Traced rules "a" ⟨3000,2000,1,1⟩ 0 { initial "a" ⟨3000,2000,1,1⟩ 0 with now := 2000 } _ :=
    .step (r := r) (a := .pass 2000) .start rfl
  have waited : Traced rules "a" ⟨3000,2000,1,1⟩ 0 { initial "a" ⟨3000,2000,1,1⟩ 0 with
      now := 2999, writer := .waiting 4000, handed := [.ping] } _ :=
    .step (r := r) (a := .pass 999) (.step (r := r) (a := .sent)
      (.step (r := r) (a := .ping) due rfl) rfl) rfl
  have answered : Traced rules "a" ⟨3000,2000,1,1⟩ 0 { initial "a" ⟨3000,2000,1,1⟩ 0 with
      now := 2999, reader := .reading 5999, writer := .waiting 4000, handed := [.ping] } _ :=
    .step (r := r) (a := .receive ⟨0,0⟩ .pong) waited rfl
  have first : Traced rules "a" ⟨3000,2000,1,1⟩ 0 { initial "a" ⟨3000,2000,1,1⟩ 0 with
      now := 4000, reader := .reading 5999, writer := .waiting 4000, handed := [.ping] } _ :=
    .step (r := r) (a := .pass 1001) answered rfl
  have past := Traced.step (r := r) (a := .pass 900) (.step (r := r) (a := .sent)
    (.step (r := r) (a := .ping) first rfl) rfl) rfl
  have inTime := deadlineNeverExpires (c := { session := ⟨3,2,1,1⟩ }) (by decide +kernel) past
    (by decide) (by decide)
  exact ⟨rules,_,_,past,by decide,by decide,rfl,rfl,inTime.1,inTime.2 _ rfl⟩

end Querent.Session
