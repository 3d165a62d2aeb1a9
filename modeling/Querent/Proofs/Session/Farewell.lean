import Querent.Proofs.Session.Capacity
import Querent.Proofs.Session.Sharing

/-! The last frame of a session. The writer leaves its loop once: it sees the signal and hands over a
close frame, or a frame is not taken, or it sees that no response can come. It hands over nothing after
that, so that a close frame is the last frame of all.

Between the signal and the end of the queue the writer chooses freely. Both are there when the other
two tasks were faster, and then the client may be left without a close frame. -/
namespace Querent.Session

def Writer.serves : Writer → Bool
  | .waiting _ => true
  | .sending _ => true
  | _ => false

namespace Taken

def parts (t : Taken) : Bool :=
  match t.action with
  | .part => true
  | _ => false

def starves (t : Taken) : Bool :=
  match t.action with
  | .writerStops => true
  | _ => false

def breaks (t : Taken) : Bool :=
  match t.action with
  | .sendFails => true
  | _ => false

def leaving (t : Taken) : Nat := t.parts.toNat + t.starves.toNat + t.breaks.toNat

end Taken

structure Farewell (l : Limits) (now : Nat) (s : Session) (trace : List Taken) : Prop where
  left : trace.countP Taken.parts + trace.countP Taken.starves + trace.countP Taken.breaks +
    (!l.hasPings now).toNat = (!s.writer.serves).toNat
  silent : l.hasPings now = false → s.handed = []
  closes : s.handed.count .close = trace.countP Taken.parts
  last : .close ∈ s.handed → s.handed.getLast? = some .close

theorem farewellInitial (id : Id) (l : Limits) (now : Nat) : Farewell l now (initial id l now) [] := by
  refine ⟨?_,fun _ => rfl,rfl,fun member => by cases member⟩
  simp only [initial,List.countP_nil,Nat.zero_add]
  cases l.hasPings now <;> rfl

section Steps
variable {rules : Dispatcher.Rules} {r r' : Registry} {s s' : Session} {a : Action}

theorem servesMove (move : Move rules r s a r' s') :
    (!s.writer.serves).toNat + Taken.leaving ⟨a,(r,s),(r',s')⟩ = (!s'.writer.serves).toNat := by
  cases move with
  | @receive _ at_ e reading =>
    obtain ⟨reader,inbound,outbound,same⟩ := receiveFrame s at_ e
    rw [same]
    rfl
  | write waiting | ping waiting | part waiting | writerStops waiting => rw [waiting]; rfl
  | sent sending | sendFails sending => rw [sending]; rfl
  | parted parting => rw [parting]; rfl
  | @writerEnds t r' alive signalled next ending torn => rw [ending]; cases next <;> rfl
  | _ => rfl

theorem handedMove (move : Move rules r s a r' s') :
    let t : Taken := ⟨a,(r,s),(r',s')⟩
    s'.handed = s.handed ∧ t.parts = false ∨ s.writer.serves = true ∧
      ∃ o, s'.handed = s.handed ++ [o] ∧ [o].count .close = t.parts.toNat := by
  cases move with
  | @receive _ at_ e reading =>
    obtain ⟨reader,inbound,outbound,same⟩ := receiveFrame s at_ e
    rw [same]
    exact .inl ⟨rfl,rfl⟩
  | write waiting | ping waiting | part waiting =>
    exact .inr ⟨by rw [waiting]; rfl,_,rfl,rfl⟩
  | _ => exact .inl ⟨rfl,rfl⟩

theorem starvesMove (lifeline : Lifeline s) (move : Move rules r s a r' s')
    (starves : Taken.starves ⟨a,(r,s),(r',s')⟩ = true) :
    s.alive = false ∧ (s.signalled = true ∨ .signal ∈ s.calls) := by
  cases move with
  | writerStops waiting empty noReader noDispatcher =>
    have dead := lifeline.dispatcher noDispatcher
    refine ⟨dead,?_⟩
    have signals := lifeline.signals
    have outside : s.running = s.calls := by simp [running,waiting,noReader,noDispatcher]
    cases given : s.signalled with
    | true => exact .inl rfl
    | false =>
      rw [outside,dead,given] at signals
      have one : s.calls.count .signal = 1 := signals
      exact .inr (List.count_pos_iff.mp (by omega))
  | _ => cases starves

end Steps

section Runs
variable {rules : Dispatcher.Rules} {id : Id} {l : Limits} {now : Nat} {s : Session}
  {trace : List Taken}

theorem Farewell.open (before : Farewell l now s trace) (serves : s.writer.serves = true) :
    .close ∉ s.handed := by
  have left := before.left
  rw [serves] at left
  have none : s.handed.count .close = 0 := by
    rw [before.closes]
    have zero : (!true).toNat = 0 := rfl
    omega
  exact List.count_eq_zero.mp none

theorem Farewell.never (before : Farewell l now s trace) (pings : l.hasPings now = false) :
    s.writer.serves = false := by
  cases serves : s.writer.serves with
  | false => rfl
  | true =>
    have left := before.left
    rw [serves,pings] at left
    have one : (!false).toNat = 1 := rfl
    have zero : (!true).toNat = 0 := rfl
    omega

theorem farewellMove {r r' : Registry} {s' : Session} {a : Action} (before : Farewell l now s trace)
    (move : Move rules r s a r' s') : Farewell l now s' (trace ++ [⟨a,(r,s),(r',s')⟩]) := by
  have handed := handedMove move
  refine ⟨?_,?_,?_,?_⟩
  · have left := before.left
    have leaves := servesMove move
    simp only [Taken.leaving] at leaves
    simp only [countSnoc]
    omega
  · intro pings
    rcases handed with ⟨same,none⟩ | ⟨serves,_⟩
    · rw [same,before.silent pings]
    · exact Bool.noConfusion (serves.symm.trans (before.never pings))
  · rw [countSnoc,← before.closes]
    rcases handed with ⟨same,none⟩ | ⟨_,o,more,counted⟩
    · rw [same,none]
      rfl
    · rw [more,List.count_append,counted]
  · intro member
    rcases handed with ⟨same,none⟩ | ⟨serves,o,more,_⟩
    · rw [same] at member ⊢
      exact before.last member
    · rw [more,List.mem_append] at member
      have here := member.resolve_left (before.open serves)
      rw [more,← List.mem_singleton.mp here,List.getLast?_concat]

theorem farewellTraced (traced : Traced rules id l now s trace) : Farewell l now s trace := by
  induction traced with
  | start => exact farewellInitial id l now
  | step before taken ih => exact farewellMove ih (moveOfStep taken)

end Runs

structure LastFrame (l : Limits) (now : Nat) (s : Session) (trace : List Taken) : Prop where
  once : s.handed.count .close ≤ 1
  last : .close ∈ s.handed → s.handed.getLast? = some .close
  finished : s.writer = .finished → trace.countP Taken.breaks = 0 →
    (s.handed.count .close = 1 ↔ l.hasPings now = true ∧ trace.countP Taken.starves = 0)
  silent : l.hasPings now = false → s.writer.serves = false ∧ s.handed = []
  starved : ∀ t ∈ trace, t.starves = true →
    t.before.2.alive = false ∧ (t.before.2.signalled = true ∨ .signal ∈ t.before.2.calls)

theorem closeFrameLast {rules : Dispatcher.Rules} {id : Id} {l : Limits} {now : Nat} {s : Session}
    {trace : List Taken} (traced : Traced rules id l now s trace) : LastFrame l now s trace := by
  have farewell := farewellTraced traced
  have left := farewell.left
  have closes := farewell.closes
  have most := Bool.toNat_le (!s.writer.serves)
  refine ⟨by omega,farewell.last,?_,fun pings => ⟨farewell.never pings,farewell.silent pings⟩,?_⟩
  · intro finished unbroken
    have gone : (!s.writer.serves).toNat = 1 := by rw [finished]; rfl
    cases pings : l.hasPings now with
    | false =>
      rw [pings] at left
      have never : (!false).toNat = 1 := rfl
      simp only [Bool.false_eq_true,false_and,iff_false]
      omega
    | true =>
      rw [pings] at left
      have started : (!true).toNat = 0 := rfl
      simp only [true_and]
      omega
  · intro t member
    obtain ⟨kept,move⟩ := movesTraced traced t member
    exact starvesMove kept.lifeline move

theorem partedWhenClosed :
    ∃ rules s trace, Traced rules "a" ⟨60,50,1,1⟩ 0 s trace ∧ s.tasksFinished = true ∧
      s.handed = [.ping,.close] ∧ LastFrame ⟨60,50,1,1⟩ 0 s trace := by
  let rules : Dispatcher.Rules := ⟨⟨⟨[]⟩,1⟩,""⟩
  let r : Registry := .empty
  have pinged : Traced rules "a" ⟨60,50,1,1⟩ 0 _ _ :=
    .step (r := r) (a := .sent) (.step (r := r) (a := .ping) (.step (r := r) (a := .pass 50)
      .start rfl) rfl) rfl
  have closed := Traced.step (r := r) (a := .callEnds 0) (.step (r := r) (a := .callEnds 0)
    (.step (r := r) (a := .call) pinged rfl) rfl) rfl
  have alone := Traced.step (r := r) (a := .dispatcherEnds) (.step (r := r) (a := .release)
    (.step (r := r) (a := .dispatcherStops) (.step (r := r) (a := .readerStops) closed rfl) rfl) rfl)
    rfl
  have parted := Traced.step (r := r) (a := .parted) (.step (r := r) (a := .part) alone rfl) rfl
  exact ⟨rules,_,_,parted,rfl,rfl,closeFrameLast parted⟩

/-- The client closes the session. The reader and the dispatcher finish before the writer looks at the
signal, and it takes the end of the queue for its reason to stop: there is no close frame. Nor is there
one where the writer never started. -/
theorem closeFrameMissed :
    (∃ rules s trace, Traced rules "a" ⟨60000,50000,256,256⟩ 0 s trace ∧ s.tasksFinished = true ∧
      s.signalled = true ∧ trace.countP Taken.breaks = 0 ∧ s.handed = []) ∧
    ∃ rules s trace, Traced rules "a" (.ofConfig ⟨60,18446744073709551615,256,256⟩) 0 s trace ∧
      s.writer = .finished ∧ s.alive = true ∧ trace.countP Taken.breaks = 0 ∧ s.handed = [] := by
  let rules : Dispatcher.Rules := ⟨⟨⟨[]⟩,1⟩,""⟩
  let r : Registry := .empty
  have closed : Traced rules "a" ⟨60000,50000,256,256⟩ 0 _ _ :=
    .step (r := r) (a := .readerEnds) (.step (r := r) (a := .readerEnds) (.step (r := r)
      (a := .readerEnds) (.step (r := r) (a := .receive ⟨0,0⟩ .close) .start rfl) rfl) rfl) rfl
  have alone := Traced.step (r := r) (a := .dispatcherEnds) (.step (r := r) (a := .release)
    (.step (r := r) (a := .dispatcherStops) closed rfl) rfl) rfl
  have missed := Traced.step (r := r) (a := .writerEnds) (.step (r := r) (a := .writerStops) alone rfl)
    rfl
  let l : Limits := .ofConfig ⟨60,18446744073709551615,256,256⟩
  have noWriter : (initial "a" l 0).writer = .finished := by decide
  exact ⟨⟨rules,_,_,missed,rfl,rfl,rfl,rfl⟩,rules,_,_,.start,noWriter,rfl,rfl,rfl⟩

end Querent.Session
