import Querent.Proofs.Config.Accepted
import Querent.Proofs.Session.Keepalive

/-! Starting sessions. A queue can only be made up to some length, and the clock can only count up to some
time. A usable configuration keeps the lengths and times of a session from being too small, and nothing keeps
them from being too great. A session whose queues cannot be made does not start, and its id stays in the
registry; one whose times cannot be counted starts without the task that needs them. -/
namespace Querent.Session
open Registry (containsOfOthers containsRegister)

def Counted (now seconds : Nat) : Prop := now + seconds * 1000 < maxTime

instance (now seconds : Nat) : Decidable (Counted now seconds) :=
  inferInstanceAs (Decidable (now + seconds * 1000 < maxTime))

structure Startable (c : Config) (now : Nat) : Prop where
  inbound : 1 ≤ c.session.inboundCapacity ∧ c.session.inboundCapacity ≤ maxCapacity
  outbound : 1 ≤ c.session.outboundCapacity ∧ c.session.outboundCapacity ≤ maxCapacity
  readDeadline : Counted now c.session.readDeadline
  pingInterval : Counted now c.session.pingInterval
  acquireTimeout : Counted now c.database.acquireTimeout

inductive Served (rules : Dispatcher.Rules) (l : Limits) : Registry → List Session → Prop where
  | none : Served rules l .empty []
  | starts {r sessions id now at_ r' s} (before : Served rules l r sessions)
      (started : start r id l now at_ = (r',.ok s)) : Served rules l r' (s :: sessions)
  | refused {r sessions id now at_ r' fault} (before : Served rules l r sessions)
      (started : start r id l now at_ = (r',.error fault)) : Served rules l r' sessions
  | step {r earlier s later a r' s'} (before : Served rules l r (earlier ++ s :: later))
      (taken : step rules r s a = some (r',s')) : Served rules l r' (earlier ++ s' :: later)

def Owned (r : Registry) (sessions : List Session) : Prop :=
  ∀ id, r.contains id = true → ∃ s ∈ sessions, s.id = id

section Start
variable {r : Registry} {id : Id} {l : Limits} {now : Nat} {at_ : Instant}

theorem startKnown (known : r.contains id = true) :
    start r id l now at_ = (r,.error .alreadyRegistered) := by
  rw [start,Registry.register,if_pos known]

theorem startNew (new : r.contains id = false) : start r id l now at_ =
    ((r.register id at_).1,if l.hasQueues then .ok (initial id l now) else .error .noQueues) := by
  rw [start,Registry.register,if_neg (by simp [new])]

theorem noQueuesIff : (start r id l now at_).2 = .error .noQueues ↔
    r.contains id = false ∧ l.hasQueues = false := by
  cases known : r.contains id with
  | true => simp [startKnown known]
  | false =>
    rw [startNew known]
    cases l.hasQueues <;> simp

theorem ownedStarted {r' : Registry} {s : Session} {sessions : List Session} (owned : Owned r sessions)
    (started : start r id l now at_ = (r',.ok s)) : Owned r' (s :: sessions) := by
  obtain ⟨-,-,rfl⟩ := startFresh started
  have others := othersStart r id l now at_
  rw [started] at others
  intro other registered
  by_cases own : other = id
  · exact ⟨_,List.mem_cons_self,own.symm⟩
  · rw [containsOfOthers others own] at registered
    obtain ⟨s,member,same⟩ := owned other registered
    exact ⟨s,List.mem_cons_of_mem _ member,same⟩

theorem ownedRefused {r' : Registry} {fault : StartFault} {sessions : List Session}
    (owned : Owned r sessions) (queues : l.hasQueues = true)
    (started : start r id l now at_ = (r',.error fault)) : Owned r' sessions := by
  cases known : r.contains id with
  | true =>
    rw [startKnown known] at started
    cases started
    exact owned
  | false =>
    rw [startNew known,if_pos queues] at started
    cases started

end Start

theorem ownedStep {rules : Dispatcher.Rules} {r r' : Registry} {earlier later : List Session}
    {s s' : Session} {a : Action} (owned : Owned r (earlier ++ s :: later))
    (taken : step rules r s a = some (r',s')) : Owned r' (earlier ++ s' :: later) := by
  have move := moveOfStep taken
  have kept : s'.id = s.id := (fixedMove move).1
  intro id registered
  by_cases own : id = s.id
  · exact ⟨s',by simp,kept.trans own.symm⟩
  · rw [containsOfOthers (othersMove move) own] at registered
    obtain ⟨t,member,rfl⟩ := owned id registered
    rcases List.mem_append.mp member with before | here
    · exact ⟨t,List.mem_append_left _ before,rfl⟩
    · rcases List.mem_cons.mp here with rfl | after
      · exact absurd rfl own
      · exact ⟨t,List.mem_append_right _ (List.mem_cons_of_mem _ after),rfl⟩

theorem ownedServed {rules : Dispatcher.Rules} {l : Limits} {r : Registry} {sessions : List Session}
    (queues : l.hasQueues = true) (served : Served rules l r sessions) : Owned r sessions := by
  induction served with
  | none => exact fun id registered => absurd registered Bool.false_ne_true
  | starts before started ih => exact ownedStarted ih started
  | refused before started ih => exact ownedRefused ih queues started
  | step before taken ih => exact ownedStep ih taken

theorem nobodyServed {rules : Dispatcher.Rules} {l : Limits} {r : Registry} {sessions : List Session}
    (queues : l.hasQueues = false) (served : Served rules l r sessions) : sessions = [] := by
  induction served with
  | none => rfl
  | starts before started ih =>
    obtain ⟨new,-,-⟩ := startFresh started
    rw [startNew new,if_neg (by simp [queues])] at started
    cases started
  | refused before started ih => exact ih
  | step before taken ih => exact absurd ih (by simp)

theorem ownedIff (l : Limits) : (∀ rules r sessions, Served rules l r sessions → Owned r sessions) ↔
    l.hasQueues = true := by
  refine ⟨fun owned => ?_,fun queues rules r sessions => ownedServed queues⟩
  cases queues : l.hasQueues with
  | true => rfl
  | false =>
    have failed : start .empty "a" l 0 ⟨0,0⟩ = ((Registry.empty.register "a" ⟨0,0⟩).1,.error .noQueues) := by
      rw [startNew rfl,if_neg (by simp [queues])]
    have served : Served ⟨⟨⟨[]⟩,1⟩,""⟩ l _ [] := .refused .none failed
    obtain ⟨s,member,-⟩ := owned _ _ _ served "a" (containsRegister .empty "a" ⟨0,0⟩)
    contradiction

theorem isCapacityIff {n : Nat} : isCapacity n = true ↔ 1 ≤ n ∧ n ≤ maxCapacity := by
  rw [isCapacity,Bool.and_eq_true,decide_eq_true_iff,decide_eq_true_iff,Nat.succ_le_iff]

theorem countedBefore {now seconds seconds' : Nat} (less : seconds ≤ seconds')
    (counted : Counted now seconds') : Counted now seconds :=
  Nat.lt_of_le_of_lt (Nat.add_le_add_left (Nat.mul_le_mul_right 1000 less) now) counted

theorem readerFinished (id : Id) (l : Limits) (now : Nat) :
    Task.reader.isFinished (initial id l now) = true ↔ ¬now + l.readDeadline < maxTime := by
  rw [Task.isFinished,decide_eq_true_iff,initial]
  dsimp only [Limits.awaitPong]
  split <;> simp [*]

theorem writerFinished (id : Id) (l : Limits) (now : Nat) (pinging : 0 < l.pingInterval) :
    Task.writer.isFinished (initial id l now) = true ↔ ¬now + l.pingInterval < maxTime := by
  rw [Task.isFinished,decide_eq_true_iff,initial,Limits.hasPings,decide_eq_true pinging,Bool.true_and]
  split <;> simp_all

theorem capacitiesOfUsable {c : Config} (usable : c.problem? = none) :
    1 ≤ c.session.inboundCapacity ∧ 1 ≤ c.session.outboundCapacity := by
  obtain ⟨pinging,shorter⟩ := intervalsOfUsable usable
  by_cases empty : c.session.inboundCapacity = 0 ∨ c.session.outboundCapacity = 0
  · rw [Config.problem?,if_neg (Nat.ne_of_gt pinging),if_neg (Nat.not_le.mpr shorter),if_pos empty] at usable
    contradiction
  · omega

section Usable
variable {c : Config} {now : Nat} (usable : c.problem? = none)
include usable

theorem hasQueuesIff : (Limits.ofConfig c.session).hasQueues = true ↔
    c.session.inboundCapacity ≤ maxCapacity ∧ c.session.outboundCapacity ≤ maxCapacity := by
  obtain ⟨inbound,outbound⟩ := capacitiesOfUsable usable
  rw [Limits.hasQueues,Bool.and_eq_true,isCapacityIff,isCapacityIff]
  exact and_congr (and_iff_right inbound) (and_iff_right outbound)

theorem startableIff : Startable c now ↔ c.session.inboundCapacity ≤ maxCapacity ∧
    c.session.outboundCapacity ≤ maxCapacity ∧ Counted now c.session.readDeadline ∧
      Counted now c.database.acquireTimeout := by
  obtain ⟨inbound,outbound⟩ := capacitiesOfUsable usable
  obtain ⟨-,shorter⟩ := intervalsOfUsable usable
  constructor
  · exact fun startable => ⟨startable.inbound.2,startable.outbound.2,startable.readDeadline,
      startable.acquireTimeout⟩
  · intro ⟨below,below',counted,counted'⟩
    exact ⟨⟨inbound,below⟩,⟨outbound,below'⟩,counted,countedBefore (Nat.le_of_lt shorter) counted,counted'⟩

end Usable

structure Starts (c : Config) : Prop where
  fits : c.Fits
  capacities : 1 ≤ c.session.inboundCapacity ∧ 1 ≤ c.session.outboundCapacity
  intervals : 0 < c.session.pingInterval ∧ c.session.pingInterval < c.session.readDeadline
  startable : ∀ now, Startable c now ↔ c.session.inboundCapacity ≤ maxCapacity ∧
    c.session.outboundCapacity ≤ maxCapacity ∧ Counted now c.session.readDeadline ∧
      Counted now c.database.acquireTimeout
  starts : ∀ r id now at_, Startable c now → r.contains id = false →
    ∃ s, start r id (.ofConfig c.session) now at_ = ((r.register id at_).1,.ok s) ∧ s.id = id ∧
      s.alive = true ∧ ∀ t : Task, t.isFinished s = false
  refuses : ∀ r id now at_, r.contains id = true →
    start r id (.ofConfig c.session) now at_ = (r,.error .alreadyRegistered)
  fails : ∀ r id now at_, (start r id (.ofConfig c.session) now at_).2 = .error .noQueues ↔
    r.contains id = false ∧
      (maxCapacity < c.session.inboundCapacity ∨ maxCapacity < c.session.outboundCapacity)
  -- No session is there that could leave for the id.
  remains : ∀ r id now at_, (start r id (.ofConfig c.session) now at_).2 = .error .noQueues →
    (start r id (.ofConfig c.session) now at_).1.contains id = true
  tasks : ∀ r id now at_ s, (start r id (.ofConfig c.session) now at_).2 = .ok s →
    (Task.reader.isFinished s = true ↔ ¬Counted now c.session.readDeadline) ∧
      (Task.writer.isFinished s = true ↔ ¬Counted now c.session.pingInterval) ∧
        Task.dispatcher.isFinished s = false
  owned : (∀ rules r sessions, Served rules (.ofConfig c.session) r sessions → Owned r sessions) ↔
    c.session.inboundCapacity ≤ maxCapacity ∧ c.session.outboundCapacity ≤ maxCapacity
  nobody : maxCapacity < c.session.inboundCapacity ∨ maxCapacity < c.session.outboundCapacity →
    ∀ rules r sessions, Served rules (.ofConfig c.session) r sessions → sessions = []

theorem startsOfUsable {text : String} {c : Config} (ok : Config.parse text = .ok c)
    (usable : c.problem? = none) : Starts c := by
  have capacities := capacitiesOfUsable usable
  have intervals := intervalsOfUsable usable
  have queues := hasQueuesIff usable
  have noQueues : (Limits.ofConfig c.session).hasQueues = false ↔
      maxCapacity < c.session.inboundCapacity ∨ maxCapacity < c.session.outboundCapacity := by
    rw [Bool.eq_false_iff,ne_eq,queues,Decidable.not_and_iff_not_or_not,Nat.not_le,Nat.not_le]
  have reader (id : Id) (now : Nat) := readerFinished id (.ofConfig c.session) now
  have writer (id : Id) (now : Nat) := writerFinished id (.ofConfig c.session) now
    (Nat.mul_pos intervals.1 (by decide))
  refine ⟨Config.fitsOfParse ok,capacities,intervals,fun now => startableIff usable,?_,?_,?_,?_,?_,?_,?_⟩
  · intro r id now at_ startable new
    have made := queues.mpr ⟨startable.inbound.2,startable.outbound.2⟩
    refine ⟨_,by rw [startNew new,if_pos made],rfl,rfl,fun t => ?_⟩
    cases t with
    | reader => exact Bool.eq_false_iff.mpr fun ended => (reader id now).mp ended startable.readDeadline
    | dispatcher => rfl
    | writer => exact Bool.eq_false_iff.mpr fun ended => (writer id now).mp ended startable.pingInterval
  · exact fun r id now at_ known => startKnown known
  · intro r id now at_
    rw [noQueuesIff,noQueues]
  · intro r id now at_ _
    rw [startRegisters]
    exact containsRegister r id at_
  · intro r id now at_ s started
    obtain ⟨-,-,rfl⟩ := startFresh (Prod.ext rfl started)
    exact ⟨reader id now,writer id now,rfl⟩
  · exact (ownedIff _).trans queues
  · exact fun long rules r sessions served => nobodyServed (noQueues.mpr long) served

theorem startsWithLongestQueue : ∃ c s,
    Config.parse "session = { read_deadline_secs = 4611686018427387904, inbound_capacity = 2305843009213693951 }" =
      .ok c ∧ c.problem? = none ∧ Starts c ∧ Startable c 0 ∧
      start .empty "a" (.ofConfig c.session) 0 ⟨0,0⟩ = (⟨[⟨"a",⟨0,0⟩⟩]⟩,.ok s) ∧
      ∀ t : Task, t.isFinished s = false := by
  have ok : Config.parse
      "session = { read_deadline_secs = 4611686018427387904, inbound_capacity = 2305843009213693951 }" =
        .ok { session := ⟨4611686018427387904,50,2305843009213693951,256⟩ } := Config.parsedOk (by decide +kernel)
  have starts := startsOfUsable ok (by decide +kernel)
  have startable := (starts.startable 0).mpr (by decide +kernel)
  obtain ⟨s,started,-,-,running⟩ := starts.starts .empty "a" 0 ⟨0,0⟩ startable rfl
  exact ⟨_,s,ok,by decide +kernel,starts,startable,started,running⟩

theorem usableUnstartable :
    (∃ c, Config.parse "session = { inbound_capacity = 2305843009213693952 }" = .ok c ∧ c.problem? = none ∧
      start .empty "a" (.ofConfig c.session) 0 ⟨0,0⟩ = (⟨[⟨"a",⟨0,0⟩⟩]⟩,.error .noQueues)) ∧
    (∃ c s, Config.parse "session = { read_deadline_secs = 9223372036854775807 }" = .ok c ∧ c.problem? = none ∧
      ¬Counted 0 c.session.readDeadline ∧
      start .empty "a" (.ofConfig c.session) 0 ⟨0,0⟩ = (⟨[⟨"a",⟨0,0⟩⟩]⟩,.ok s) ∧ s.alive = true ∧
      Task.reader.isFinished s = true) ∧
    ∃ c, Config.parse "database = { acquire_timeout_secs = 9223372036854775807 }" = .ok c ∧
      c.problem? = none ∧ ¬Counted 0 c.database.acquireTimeout := by
  refine ⟨⟨{ session := ⟨60,50,2305843009213693952,256⟩ },Config.parsedOk ?_,?_,rfl⟩,
    ⟨{ session := ⟨9223372036854775807,50,256,256⟩ },initial "a" ⟨9223372036854775807000,50000,256,256⟩ 0,
      Config.parsedOk ?_,?_,?_,rfl,rfl,?_⟩,
    ⟨{ database := ⟨5,9223372036854775807,500⟩ },Config.parsedOk ?_,?_,?_⟩⟩
  all_goals decide +kernel

end Querent.Session
