import Querent.Proofs.Session.Release
import Querent.Proofs.Session.Sharing

/-! A session that is told to close. From then on what a task can do next depends on where it is and on
nothing else: no task waits for room in a queue, for a frame in it, or for another task. Each of them
goes on when the call to the outside returns in which it may be, and every such step brings it nearer to
its end. -/
namespace Querent.Session
open Dispatcher (Opened)

def Action.task? : Action → Option Task
  | .receive .. => some .reader
  | .readerStops => some .reader
  | .readerExpires => some .reader
  | .readerEnds => some .reader
  | .take => some .dispatcher
  | .answer _ => some .dispatcher
  | .push => some .dispatcher
  | .dispatcherStops => some .dispatcher
  | .release => some .dispatcher
  | .dispatcherEnds => some .dispatcher
  | .write => some .writer
  | .ping => some .writer
  | .sent => some .writer
  | .sendFails => some .writer
  | .part => some .writer
  | .parted => some .writer
  | .writerStops => some .writer
  | .writerEnds => some .writer
  | .call => none
  | .callEnds _ => none
  | .pass _ => none

def Action.isOf (task : Task) (a : Action) : Bool := a.task? = some task

def Teardown.rank : Teardown → Nat
  | .claim => 3
  | .signal => 2
  | .leave => 1

namespace Task

def rank (s : Session) : Task → Nat
  | .reader => match s.reader with
    | .reading _ => 4
    | .ending t => t.rank
    | .finished => 0
  | .dispatcher => match s.dispatching with
    | .handling _ => 6
    | .idle => 5
    | .holding _ => 5
    | .closing => 4
    | .ending t => t.rank
    | .finished => 0
  | .writer => match s.writer with
    | .sending _ => 6
    | .waiting _ => 5
    | .parting _ => 4
    | .ending t => t.rank
    | .finished => 0

end Task

/-- What a task does next when there is the signal. Where it is in a call to the outside, that is
whatever the call may come to: a frame is handled in some world, the database is closed, the transport
takes a frame or fails. -/
inductive Ready (s : Session) (w : World) : Task → Action → Prop where
  | readerStops {deadline} (reading : s.reader = .reading deadline) : Ready s w .reader .readerStops
  | readerEnds {t} (ending : s.reader = .ending t) : Ready s w .reader .readerEnds
  | answer {f} (handling : s.dispatching = .handling f) : Ready s w .dispatcher (.answer w)
  | dispatcherStops (idle : s.dispatching = .idle) : Ready s w .dispatcher .dispatcherStops
  | abandon {response} (holding : s.dispatching = .holding response) :
      Ready s w .dispatcher .dispatcherStops
  | release (closing : s.dispatching = .closing) : Ready s w .dispatcher .release
  | dispatcherEnds {t} (ending : s.dispatching = .ending t) : Ready s w .dispatcher .dispatcherEnds
  | sent {tick} (sending : s.writer = .sending tick) : Ready s w .writer .sent
  | sendFails {tick} (sending : s.writer = .sending tick) : Ready s w .writer .sendFails
  | part {tick} (waiting : s.writer = .waiting tick) : Ready s w .writer .part
  | parted {until_} (parting : s.writer = .parting until_) : Ready s w .writer .parted
  | writerEnds {t} (ending : s.writer = .ending t) : Ready s w .writer .writerEnds

theorem readyOf {s : Session} {w : World} {task : Task} {a : Action} (ready : Ready s w task a) :
    a.isOf task = true := by
  cases ready <;> rfl

theorem readyUnlessFinished (s : Session) (w : World) (task : Task)
    (unfinished : task.isFinished s = false) : ∃ a, Ready s w task a := by
  cases task with
  | reader =>
    cases reader : s.reader with
    | reading deadline => exact ⟨_,.readerStops reader⟩
    | ending t => exact ⟨_,.readerEnds reader⟩
    | finished => simp [Task.isFinished,reader] at unfinished
  | dispatcher =>
    cases dispatching : s.dispatching with
    | idle => exact ⟨_,.dispatcherStops dispatching⟩
    | handling f => exact ⟨_,.answer dispatching⟩
    | holding response => exact ⟨_,.abandon dispatching⟩
    | closing => exact ⟨_,.release dispatching⟩
    | ending t => exact ⟨_,.dispatcherEnds dispatching⟩
    | finished => simp [Task.isFinished,dispatching] at unfinished
  | writer =>
    cases writer : s.writer with
    | waiting tick => exact ⟨_,.part writer⟩
    | sending tick => exact ⟨_,.sent writer⟩
    | parting until_ => exact ⟨_,.parted writer⟩
    | ending t => exact ⟨_,.writerEnds writer⟩
    | finished => simp [Task.isFinished,writer] at unfinished

theorem tearRank {r r' : Registry} {s s' : Session} {t : Teardown} {next : Option Teardown}
    (torn : tear r s t = (r',s',next)) : (next.map (·.rank)).getD 0 < t.rank := by
  cases t with
  | claim =>
    simp only [tear] at torn
    split at torn <;> cases torn <;> decide
  | signal => cases torn; decide
  | leave => cases torn; decide

section Steps
variable {rules : Dispatcher.Rules} {s : Session} {w : World} {task : Task} {a : Action}

theorem readyStep (given : s.signalled = true) (ready : Ready s w task a) (r : Registry) :
    ∃ r' s', step rules r s a = some (r',s') ∧ task.rank s' < task.rank s := by
  cases ready with
  | readerStops reading =>
    refine ⟨r,{ s with reader := .finished },by simp [step,reading,given],?_⟩
    simp [Task.rank,reading]
  | @readerEnds t ending =>
    obtain ⟨alive,signalled,next,torn⟩ := tearFlags r s t
    refine ⟨_,_,by simp only [step,ending]; rfl,?_⟩
    have nearer := tearRank torn
    rw [torn]
    cases next <;> simpa [Task.rank,ending] using nearer
  | answer handling =>
    refine ⟨_,_,by simp only [step,handling]; rfl,?_⟩
    simp [Task.rank,handling]
  | dispatcherStops idle =>
    refine ⟨r,{ s with dispatching := .closing },by simp [step,dispatcherMayStop,idle,given],?_⟩
    simp [Task.rank,idle]
  | abandon holding =>
    refine ⟨r,{ s with dispatching := .closing },by simp [step,dispatcherMayStop,holding,given],?_⟩
    simp [Task.rank,holding]
  | release closing =>
    refine ⟨_,_,by simp only [step,closing]; rfl,?_⟩
    simp [Task.rank,closing,Teardown.rank]
  | @dispatcherEnds t ending =>
    obtain ⟨alive,signalled,next,torn⟩ := tearFlags r s t
    refine ⟨_,_,by simp only [step,ending]; rfl,?_⟩
    have nearer := tearRank torn
    rw [torn]
    cases next <;> simpa [Task.rank,ending] using nearer
  | sent sending =>
    refine ⟨_,_,by simp only [step,sending]; rfl,?_⟩
    simp [Task.rank,sending]
  | sendFails sending =>
    refine ⟨_,_,by simp only [step,sending]; rfl,?_⟩
    simp [Task.rank,sending,Teardown.rank]
  | part waiting =>
    refine ⟨_,_,by simp only [step,waiting,given,if_true]; rfl,?_⟩
    simp [Task.rank,waiting]
  | parted parting =>
    refine ⟨_,_,by simp only [step,parting]; rfl,?_⟩
    simp [Task.rank,parting]
  | @writerEnds t ending =>
    obtain ⟨alive,signalled,next,torn⟩ := tearFlags r s t
    refine ⟨_,_,by simp only [step,ending]; rfl,?_⟩
    have nearer := tearRank torn
    rw [torn]
    cases next <;> simpa [Task.rank,ending] using nearer

theorem dispatcherMove {r r' : Registry} {s' : Session} (given : s.signalled = true)
    (move : Move rules r s a r' s') :
    (a.isOf .dispatcher).toNat + Task.dispatcher.rank s' ≤ Task.dispatcher.rank s := by
  cases move with
  | @receive _ at_ e reading =>
    obtain ⟨reader,inbound,outbound,same⟩ := receiveFrame s at_ e
    rw [same]
    exact Nat.le_of_eq (Nat.zero_add _)
  | take _ _ quiet | push _ quiet => exact Bool.noConfusion (quiet.symm.trans given)
  | answer handling => simp [Task.rank,handling,Action.isOf,Action.task?]
  | abandon holding => simp [Task.rank,holding,Action.isOf,Action.task?]
  | dispatcherStops idle => simp [Task.rank,idle,Action.isOf,Action.task?]
  | release closing => simp [Task.rank,closing,Action.isOf,Action.task?,Teardown.rank]
  | @dispatcherEnds t r' alive signalled next ending torn =>
    have nearer := tearRank torn
    cases next <;> simp [Task.rank,ending,Action.isOf,Action.task?] at nearer ⊢ <;> omega
  | _ => exact Nat.le_of_eq (Nat.zero_add _)

end Steps

inductive Onward (rules : Dispatcher.Rules) (s : Session) (h : History) :
    List Action → Session → History → Prop where
  | here : Onward rules s h [] s h
  | step {actions r a s' h' r' s''} (before : Onward rules s h actions s' h')
      (taken : step rules r s' a = some (r',s'')) :
      Onward rules s h (actions ++ [a]) s'' (h'.after s' a)

section Runs
variable {rules : Dispatcher.Rules} {id : Id} {l : Limits} {now : Nat} {s s' : Session}
  {h h' : History} {actions : List Action}

theorem Onward.reachable (onward : Onward rules s h actions s' h')
    (run : Reachable rules id l now s h) : Reachable rules id l now s' h' := by
  induction onward with
  | here => exact run
  | step _ taken ih => exact .step ih taken

theorem Onward.signalled (onward : Onward rules s h actions s' h') (given : s.signalled = true) :
    s'.signalled = true := by
  induction onward with
  | here => exact given
  | step _ taken ih => exact signalledMove (moveOfStep taken) ih

theorem Onward.nearer (onward : Onward rules s h actions s' h') (given : s.signalled = true) :
    actions.countP (·.isOf .dispatcher) + Task.dispatcher.rank s' ≤ Task.dispatcher.rank s := by
  induction onward with
  | here => exact Nat.le_of_eq (Nat.zero_add _)
  | @step actions r a s' h' r' s'' before taken ih =>
    have next := dispatcherMove (before.signalled given) (moveOfStep taken)
    have counted : [a].countP (·.isOf .dispatcher) = (a.isOf .dispatcher).toNat := by
      cases this : a.isOf .dispatcher <;> simp [this]
    rw [List.countP_append,counted]
    omega

theorem onwardFirst {r r' : Registry} {s'' : Session} {a : Action}
    (taken : step rules r s a = some (r',s'')) (later : Onward rules s'' (h.after s a) actions s' h') :
    Onward rules s h (a :: actions) s' h' := by
  induction later with
  | here => exact Onward.step .here taken
  | step _ next ih => exact ih.step next

theorem endsAlone (given : s.signalled = true) (h : History) (r : Registry) (w : World) (task : Task) :
    ∃ actions r' s' h', run rules r s actions = some (r',s') ∧ Onward rules s h actions s' h' ∧
      (∀ a ∈ actions, ∃ t, Ready t w task a) ∧ actions.length ≤ task.rank s ∧
      task.isFinished s' = true := by
  induction distance : task.rank s using Nat.strongRecOn generalizing s r h with
  | ind n ih =>
    cases finished : task.isFinished s with
    | true => exact ⟨[],r,s,h,rfl,.here,by simp,Nat.zero_le _,finished⟩
    | false =>
      obtain ⟨a,ready⟩ := readyUnlessFinished s w task finished
      obtain ⟨r₁,s₁,taken,nearer⟩ := @readyStep rules _ _ _ _ given ready r
      have given₁ := signalledMove (moveOfStep taken) given
      obtain ⟨actions,r',s',h',ran,onward,own,few,ended⟩ :=
        ih _ (distance ▸ nearer) given₁ (h.after s a) r₁ rfl
      refine ⟨a :: actions,r',s',h',?_,onwardFirst taken onward,?_,?_,ended⟩
      · simp only [run,taken]
        exact ran
      · intro b member
        rcases List.mem_cons.mp member with rfl | later
        · exact ⟨s,ready⟩
        · exact own b later
      · rw [List.length_cons,← distance]
        exact Nat.le_trans (Nat.succ_le_succ few) nearer

end Runs

structure Unblocked (rules : Dispatcher.Rules) (s : Session) (h : History) : Prop where
  ready : ∀ w task, task.isFinished s = false → ∃ a, Ready s w task a
  steps : ∀ {w task a}, Ready s w task a → a.isOf task = true ∧
    ∀ r, ∃ r' s', step rules r s a = some (r',s') ∧ task.rank s' < task.rank s
  alone : ∀ r w task, ∃ actions r' s' h', run rules r s actions = some (r',s') ∧
    Onward rules s h actions s' h' ∧ (∀ a ∈ actions, ∃ t, Ready t w task a) ∧
      actions.length ≤ task.rank s ∧ task.isFinished s' = true
  later : ∀ {actions s' h'}, Onward rules s h actions s' h' → s'.signalled = true ∧
    actions.countP (·.isOf .dispatcher) + Task.dispatcher.rank s' ≤ Task.dispatcher.rank s
  closed : ∀ {actions s' h'}, Onward rules s h actions s' h' → s'.dispatching = .finished →
    s'.dispatcher.attached = none ∧
      ∀ {handle}, Opened rules h'.answered handle → s'.dispatcher.ledger.isClosed handle = true

theorem neverBlocked {rules : Dispatcher.Rules} {id : Id} {l : Limits} {now : Nat} {s : Session}
    {h : History} (run : Reachable rules id l now s h) (given : s.signalled = true) :
    Unblocked rules s h := by
  refine ⟨readyUnlessFinished s,?_,endsAlone given h,?_,?_⟩
  · intro w task a ready
    exact ⟨readyOf ready,readyStep given ready⟩
  · intro actions s' h' onward
    exact ⟨onward.signalled given,onward.nearer given⟩
  · intro actions s' h' onward finished
    exact (handlesKept (onward.reachable run)).released (by rw [finished]; rfl)

theorem finishesWithoutWriter :
    ∃ rules s h actions s' h', Reachable rules "a" ⟨60,50,1,1⟩ 0 s h ∧ s.signalled = true ∧
      s.writer = .finished ∧ s.outbound.length = 1 ∧ s.dispatching.responses.length = 1 ∧
      Unblocked rules s h ∧ Onward rules s h actions s' h' ∧ s'.dispatching = .finished ∧
      Opened rules h'.answered ⟨0,.sqlite,"first"⟩ ∧
      s'.dispatcher.ledger.isClosed ⟨0,.sqlite,"first"⟩ = true := by
  let t : Instant := ⟨0,0⟩
  let w : World := ⟨t,.empty,fun _ _ => .ok (),fun _ _ => ⟨.ok [],fun _ => .ok []⟩,fun _ _ => []⟩
  let rules : Dispatcher.Rules := ⟨⟨⟨[]⟩,1⟩,""⟩
  let r : Registry := .empty
  let m : Message := ⟨Message.attachKind,
    .object [("engine",.text "sqlite"), ("db",.text "main"), ("url",.text "first")],t⟩
  let sent := "\x7b\"type\":\"attach-database\",\"payload\":\x7b\"engine\":\"sqlite\"," ++
    "\"db\":\"main\",\"url\":\"first\"\x7d\x7d"
  have frame : Frame.read sent t = .message m := by decide +kernel
  have answered : Reachable rules "a" ⟨60,50,1,1⟩ 0 _ _ :=
    .step (r := r) (a := .push) (.step (r := r) (a := .answer w) (.step (r := r) (a := .take)
      (.step (r := r) (a := .receive t (.text sent)) .start rfl) rfl) rfl) rfl
  have holding := Reachable.step (r := r) (a := .answer w) (.step (r := r) (a := .take)
    (.step (r := r) (a := .receive t (.text "next")) answered rfl) rfl) rfl
  have failed := Reachable.step (r := r) (a := .sendFails) (.step (r := r) (a := .ping)
    (.step (r := r) (a := .pass 50) holding rfl) rfl) rfl
  have alone := Reachable.step (r := r) (a := .writerEnds) (.step (r := r) (a := .writerEnds)
    (.step (r := r) (a := .writerEnds) failed rfl) rfl) rfl
  have unblocked := neverBlocked alone rfl
  have here {s h} (_ : Reachable rules "a" ⟨60,50,1,1⟩ 0 s h) : Onward rules s h [] s h := .here
  have ended := Onward.step (r := r) (a := .dispatcherEnds) (.step (r := r) (a := .release)
    (.step (r := r) (a := .dispatcherStops) (here alone) rfl) rfl) rfl
  have opens : Dispatcher.Opens (Dispatcher.after rules []) w (.message m) ⟨0,.sqlite,"first"⟩ :=
    .intro rfl rfl (by decide +kernel) rfl
  have opened : Opened rules [(w,.read sent t),(w,.read "next" t)] ⟨0,.sqlite,"first"⟩ := by
    rw [frame]
    exact @Opened.earlier rules [_] _ _ _ (@Opened.now rules [] _ _ _ opens)
  exact ⟨rules,_,_,_,_,_,alone,rfl,rfl,rfl,rfl,unblocked,ended,rfl,opened,
    (unblocked.closed ended rfl).2 opened⟩

end Querent.Session
