import Querent.Proofs.Session.Lifeline

/-! Sessions that share a registry. Their steps are taken in any order, and any number of calls may be
ending each of them. All the same a session ends once: it is claimed once, signalled once, and leaves
once, and none of its steps touches the entry of another. -/
namespace Querent.Session

namespace Taken

def dies (t : Taken) : Bool := t.before.2.alive && !t.after.2.alive

def signals (t : Taken) : Bool := !t.before.2.signalled && t.after.2.signalled

def unregisters (t : Taken) : Bool := t.action.tears? t.before.2 = some .leave

end Taken

/-- What some order of steps leads to: the registry, and the sessions with the steps that each has taken.
Ids are drawn anew for each session, so that one that is not registered was never given to another. -/
inductive Shared (rules : Dispatcher.Rules) : Registry → List (Session × List Taken) → Prop where
  | none : Shared rules .empty []
  | starts {r sessions id l now at_ r' s} (before : Shared rules r sessions)
      (new : r.contains id = false → ∀ p ∈ sessions, p.1.id ≠ id)
      (started : start r id l now at_ = (r',.ok s)) : Shared rules r' (sessions ++ [(s,[])])
  | refused {r sessions id l now at_ r' fault} (before : Shared rules r sessions)
      (new : r.contains id = false → ∀ p ∈ sessions, p.1.id ≠ id)
      (started : start r id l now at_ = (r',.error fault)) : Shared rules r' sessions
  | step {r sessions i s trace a r' s'} (before : Shared rules r sessions)
      (here : sessions[i]? = some (s,trace)) (taken : step rules r s a = some (r',s')) :
      Shared rules r' (sessions.set i (s',trace ++ [⟨a,(r,s),(r',s')⟩]))

structure Taken.Proper (t : Taken) : Prop where
  ended : t.before.2.alive = false → t.after.2.alive = false
  signalled : t.before.2.signalled = true → t.after.2.signalled = true
  others : t.after.1.others t.before.2.id = t.before.1.others t.before.2.id

structure Recorded (r : Registry) (s : Session) (trace : List Taken) : Prop where
  lifeline : Lifeline s
  entered : Entered r s
  deaths : trace.countP Taken.dies = (!s.alive).toNat
  signals : trace.countP Taken.signals = s.signalled.toNat
  departures : trace.countP Taken.unregisters = (!r.contains s.id).toNat
  proper : ∀ t ∈ trace, t.before.2.id = s.id ∧ t.Proper

theorem recordedInitial {r : Registry} {id : Id} (l : Limits) (now : Nat)
    (registered : r.contains id = true) : Recorded r (initial id l now) [] := by
  have lifeline := lifelineInitial id l now
  have none : (initial id l now).running.count .leave = 0 := Nat.le_zero.mp lifeline.leaves
  have here : r.contains (initial id l now).id = true := registered
  refine ⟨lifeline,?_,rfl,rfl,?_,by simp⟩
  · rw [Entered,none,here]
    rfl
  · rw [here]
    rfl

theorem Recorded.elsewhere {r r' : Registry} {s : Session} {trace : List Taken}
    (recorded : Recorded r s trace) (same : r'.contains s.id = r.contains s.id) :
    Recorded r' s trace := by
  obtain ⟨lifeline,entered,deaths,signals,departures,proper⟩ := recorded
  refine ⟨lifeline,?_,deaths,signals,?_,proper⟩
  · rw [Entered,same]
    exact entered
  · rw [same]
    exact departures

section Steps
variable {rules : Dispatcher.Rules} {r r' : Registry} {s s' : Session} {a : Action}

theorem properMove (move : Move rules r s a r' s') : Taken.Proper ⟨a,(r,s),(r',s')⟩ :=
  ⟨aliveMove move,signalledMove move,othersMove move⟩

theorem diesMove (move : Move rules r s a r' s') :
    (!s.alive).toNat + (Taken.dies ⟨a,(r,s),(r',s')⟩).toNat = (!s'.alive).toNat := by
  simp only [Taken.dies]
  cases before : s.alive with
  | false =>
    rw [aliveMove move before]
    rfl
  | true => cases s'.alive <;> rfl

theorem givesMove (move : Move rules r s a r' s') :
    s.signalled.toNat + (Taken.signals ⟨a,(r,s),(r',s')⟩).toNat = s'.signalled.toNat := by
  simp only [Taken.signals]
  cases before : s.signalled with
  | true =>
    rw [signalledMove move before]
    rfl
  | false => cases s'.signalled <;> rfl

theorem unregistersMove (entered : Entered r s)
    (move : Move rules r s a r' s') :
    (!r.contains s.id).toNat + (Taken.unregisters ⟨a,(r,s),(r',s')⟩).toNat =
      (!r'.contains s'.id).toNat := by
  have advance := advanceOfMove move
  rw [(fixedMove move).1]
  simp only [Taken.unregisters]
  generalize a.tears? s = step at advance
  cases advance with
  | tears torn alive signalled member counts =>
    cases torn with
    | claims | late | signals => simp
    | leaves =>
      have some := List.count_pos_iff.mpr member
      have given := Bool.toNat_le s.signalled
      have registered : (!r.contains s.id).toNat = 0 := by
        unfold Entered at entered
        omega
      rw [registered,Registry.containsUnregister]
      rfl
  | other registry alive signalled counts => simp [registry]

theorem countSnoc (p : Taken → Bool) (trace : List Taken) (t : Taken) :
    (trace ++ [t]).countP p = trace.countP p + (p t).toNat := by
  cases holds : p t <;> simp [holds]

theorem recordedMove {trace : List Taken} (recorded : Recorded r s trace)
    (move : Move rules r s a r' s') : Recorded r' s' (trace ++ [⟨a,(r,s),(r',s')⟩]) := by
  obtain ⟨lifeline,entered,deaths,signals,departures,proper⟩ := recorded
  have same := (fixedMove move).1
  have dies := diesMove move
  have gives := givesMove move
  have unregisters := unregistersMove entered move
  refine ⟨lifelineMove lifeline move,enteredMove lifeline entered move,?_,?_,?_,?_⟩
  · rw [countSnoc,deaths,dies]
  · rw [countSnoc,signals,gives]
  · rw [countSnoc,departures,unregisters]
  · intro t member
    rcases List.mem_append.mp member with earlier | now
    · rw [same]
      exact proper t earlier
    · cases List.mem_singleton.mp now
      exact ⟨same.symm,properMove move⟩

end Steps

section Starts
variable {r r' : Registry} {id : Id} {l : Limits} {now : Nat} {at_ : Instant}

theorem startRegisters (r : Registry) (id : Id) (l : Limits) (now : Nat) (at_ : Instant) :
    (start r id l now at_).1 = (r.register id at_).1 := by
  unfold start
  cases (r.register id at_) with
  | mk r' answer => cases answer <;> rfl

theorem othersStart (r : Registry) (id : Id) (l : Limits) (now : Nat) (at_ : Instant) :
    (start r id l now at_).1.others id = r.others id := by
  rw [startRegisters]
  exact Registry.othersRegister r id at_

theorem startFresh {s : Session} (started : start r id l now at_ = (r',.ok s)) :
    r.contains id = false ∧ r'.contains id = true ∧ s = initial id l now := by
  have registry : r' = (r.register id at_).1 := by rw [← startRegisters r id l now at_,started]
  cases registered : r.contains id with
  | true => simp [start,Registry.register,registered] at started
  | false =>
    simp only [start,Registry.register,registered,Bool.false_eq_true,if_false] at started
    split at started <;> cases started
    refine ⟨rfl,?_,rfl⟩
    rw [registry]
    exact Registry.containsRegister r id at_

theorem recordedStart {s : Session} {trace : List Taken} (l : Limits) (now : Nat) (at_ : Instant)
    (recorded : Recorded r s trace) (new : r.contains id = false → s.id ≠ id) :
    Recorded (start r id l now at_).1 s trace := by
  refine recorded.elsewhere ?_
  cases registered : r.contains id with
  | true => simp [startRegisters,Registry.register,registered]
  | false => exact Registry.containsOfOthers (othersStart r id l now at_) (new registered)

end Starts

def ids (sessions : List (Session × List Taken)) : List Id := sessions.map fun p => p.1.id

theorem idsSet {sessions : List (Session × List Taken)} {i : Nat} {s s' : Session}
    {trace trace' : List Taken} (here : sessions[i]? = some (s,trace)) (same : s'.id = s.id) :
    ids (sessions.set i (s',trace')) = ids sessions := by
  have there : (ids sessions)[i]? = some s'.id := by simp [ids,here,same]
  obtain ⟨within,given⟩ := List.getElem?_eq_some_iff.mp there
  rw [ids,List.map_set,← given]
  exact List.set_getElem_self within

theorem differentIds {sessions : List (Session × List Taken)} {i j : Nat}
    {p q : Session × List Taken} (apart : (ids sessions).Nodup) (first : sessions[i]? = some p)
    (second : sessions[j]? = some q) (different : i ≠ j) : p.1.id ≠ q.1.id := by
  intro same
  have firstId : (ids sessions)[i]? = some p.1.id := by simp [ids,first]
  have secondId : (ids sessions)[j]? = some p.1.id := by simp [ids,second,same]
  obtain ⟨within,_⟩ := List.getElem?_eq_some_iff.mp firstId
  exact different ((List.getElem?_inj within apart).mp (firstId.trans secondId.symm))

theorem recordedSet {rules : Dispatcher.Rules} {r r' : Registry} {s s' : Session} {a : Action} {i : Nat}
    {sessions : List (Session × List Taken)} {trace : List Taken} (apart : (ids sessions).Nodup)
    (recorded : ∀ p ∈ sessions, Recorded r p.1 p.2) (here : sessions[i]? = some (s,trace))
    (move : Move rules r s a r' s') :
    ∀ p ∈ sessions.set i (s',trace ++ [⟨a,(r,s),(r',s')⟩]), Recorded r' p.1 p.2 := by
  intro p member
  obtain ⟨j,there⟩ := List.mem_iff_getElem?.mp member
  by_cases this : j = i
  · subst this
    rw [List.getElem?_set_self (List.getElem?_eq_some_iff.mp here).1] at there
    cases there
    exact recordedMove (recorded _ (List.mem_of_getElem? here)) move
  · rw [List.getElem?_set_ne (Ne.symm this)] at there
    have different := differentIds apart there here this
    refine (recorded p (List.mem_of_getElem? there)).elsewhere ?_
    exact Registry.containsOfOthers (othersMove move) different

theorem sharedRecorded {rules : Dispatcher.Rules} {r : Registry}
    {sessions : List (Session × List Taken)} (shared : Shared rules r sessions) :
    (ids sessions).Nodup ∧ ∀ p ∈ sessions, Recorded r p.1 p.2 := by
  induction shared with
  | none => simp [ids]
  | @starts r sessions id l now at_ r' s before new started ih =>
    obtain ⟨apart,recorded⟩ := ih
    obtain ⟨absent,registered,rfl⟩ := startFresh started
    constructor
    · simp only [ids,List.map_append,List.nodup_append]
      refine ⟨apart,by simp,?_⟩
      intro other earlier this here
      obtain ⟨p,member,rfl⟩ := List.mem_map.mp earlier
      cases List.mem_singleton.mp here
      exact new absent p member
    · intro p member
      rcases List.mem_append.mp member with earlier | fresh
      · have kept := recordedStart l now at_ (recorded p earlier) fun _ => new absent p earlier
        rw [started] at kept
        exact kept
      · cases List.mem_singleton.mp fresh
        exact recordedInitial l now registered
  | @refused r sessions id l now at_ r' fault before new started ih =>
    obtain ⟨apart,recorded⟩ := ih
    refine ⟨apart,?_⟩
    intro p member
    have kept := recordedStart l now at_ (recorded p member) fun absent => new absent p member
    rw [started] at kept
    exact kept
  | @step r sessions i s trace a r' s' before here taken ih =>
    obtain ⟨apart,recorded⟩ := ih
    have move := moveOfStep taken
    rw [idsSet here (fixedMove move).1]
    exact ⟨apart,recordedSet apart recorded here move⟩

structure EndsOnce (r : Registry) (s : Session) (trace : List Taken) : Prop where
  dies : trace.countP Taken.dies = if s.alive then 0 else 1
  signals : trace.countP Taken.signals = if s.signalled then 1 else 0
  leaves : trace.countP Taken.unregisters = if r.contains s.id then 0 else 1
  proper : ∀ t ∈ trace, t.before.2.id = s.id ∧ t.Proper
  missing : r.contains s.id = false → s.signalled = true
  signalled : s.signalled = true → s.alive = false
  finished : s.tasksFinished = true → s.calls = [] →
    s.alive = false ∧ s.signalled = true ∧ r.contains s.id = false

theorem Recorded.missing {r : Registry} {s : Session} {trace : List Taken}
    (recorded : Recorded r s trace) (absent : r.contains s.id = false) : s.signalled = true := by
  have entered := recorded.entered
  rw [Entered,absent] at entered
  have once := Bool.toNat_le s.signalled
  have gone : (!false).toNat = 1 := rfl
  exact Bool.toNat_eq_one.mp (by omega)

theorem runningFinished {s : Session} (finished : s.tasksFinished = true) (alone : s.calls = []) :
    s.running = [] ∧ s.dispatching = .finished := by
  simp only [tasksFinished,Bool.and_eq_true,decide_eq_true_eq] at finished
  obtain ⟨⟨reader,dispatching⟩,writer⟩ := finished
  simp [running,reader,dispatching,writer,alone]

theorem Recorded.finished {r : Registry} {s : Session} {trace : List Taken}
    (recorded : Recorded r s trace) (tasks : s.tasksFinished = true) (alone : s.calls = []) :
    s.alive = false ∧ s.signalled = true ∧ r.contains s.id = false := by
  obtain ⟨quiet,stopped⟩ := runningFinished tasks alone
  have dead := recorded.lifeline.dispatcher stopped
  have signals := recorded.lifeline.signals
  have entered := recorded.entered
  rw [quiet,dead,List.count_nil,Nat.zero_add] at signals
  have given : s.signalled = true := Bool.toNat_eq_one.mp signals
  rw [Entered,quiet,given,List.count_nil,Nat.zero_add] at entered
  have gone : (!r.contains s.id) = true := Bool.toNat_eq_one.mp entered
  exact ⟨dead,given,by simpa using gone⟩

theorem sessionsEndOnce {rules : Dispatcher.Rules} {r : Registry}
    {sessions : List (Session × List Taken)} (shared : Shared rules r sessions) :
    (∀ p ∈ sessions, EndsOnce r p.1 p.2) ∧
      ∀ id l now at_, (start r id l now at_).1.others id = r.others id := by
  refine ⟨?_,othersStart r⟩
  intro p member
  have recorded := (sharedRecorded shared).2 p member
  refine ⟨?_,?_,?_,recorded.proper,recorded.missing,recorded.lifeline.ended,recorded.finished⟩
  · rw [recorded.deaths]
    cases p.1.alive <;> rfl
  · rw [recorded.signals]
    cases p.1.signalled <;> rfl
  · rw [recorded.departures]
    cases r.contains p.1.id <;> rfl

theorem sharedRun {rules : Dispatcher.Rules} {r r' : Registry} {i : Nat} {s s' : Session}
    {actions : List Action} {sessions : List (Session × List Taken)} {trace : List Taken}
    (shared : Shared rules r sessions) (here : sessions[i]? = some (s,trace))
    (ran : run rules r s actions = some (r',s')) :
    ∃ trace', Shared rules r' (sessions.set i (s',trace')) := by
  induction actions generalizing r s sessions trace with
  | nil =>
    cases ran
    obtain ⟨within,same⟩ := List.getElem?_eq_some_iff.mp here
    refine ⟨trace,?_⟩
    rw [← same,List.set_getElem_self]
    exact shared
  | cons a rest ih =>
    simp only [run] at ran
    cases taken : step rules r s a with
    | none => simp [taken] at ran
    | some next =>
      rw [taken] at ran
      have after := Shared.step shared here taken
      have there := List.getElem?_set_self (a := (next.2,trace ++ [⟨a,(r,s),(next.1,next.2)⟩]))
        (List.getElem?_eq_some_iff.mp here).1
      obtain ⟨trace',whole⟩ := ih after there ran
      rw [List.set_set] at whole
      exact ⟨trace',whole⟩

theorem closedTwiceAtOnce :
    ∃ rules r s trace other, Shared rules r [(s,trace),(other,[])] ∧ s.tasksFinished = true ∧
      s.calls = [] ∧ r.ids = ["b"] ∧ EndsOnce r s trace ∧ EndsOnce r other [] := by
  let t : Instant := ⟨0,0⟩
  let rules : Dispatcher.Rules := ⟨⟨⟨[]⟩,1⟩,""⟩
  let l : Limits := ⟨60000,50000,1,1⟩
  let actions : List Action := [.call,.call,.callEnds 0,.callEnds 1,.callEnds 0,.callEnds 0,
    .readerStops,.dispatcherStops,.release,.dispatcherEnds,.part,.parted]
  have first : start .empty "a" l 0 t = (⟨[⟨"a",t⟩]⟩,.ok (initial "a" l 0)) := rfl
  have second : start ⟨[⟨"a",t⟩]⟩ "b" l 0 t = (⟨[⟨"a",t⟩,⟨"b",t⟩]⟩,.ok (initial "b" l 0)) := rfl
  have both : Shared rules _ [(initial "a" l 0,[]),(initial "b" l 0,[])] :=
    .starts (.starts .none (by simp) first) (by simp [initial]) second
  let s := { initial "a" l 0 with
    alive := false, signalled := true, reader := .finished, dispatching := .finished
    writer := .finished, handed := [.close] }
  have ran : run rules ⟨[⟨"a",t⟩,⟨"b",t⟩]⟩ (initial "a" l 0) actions = some (⟨[⟨"b",t⟩]⟩,s) := rfl
  obtain ⟨trace,closed⟩ := sharedRun (i := 0) both rfl ran
  have ends := (sessionsEndOnce closed).1
  exact ⟨rules,_,s,trace,_,closed,rfl,rfl,rfl,ends _ (.head _),ends _ (.tail _ (.head _))⟩

end Querent.Session
