import Querent.Proofs.Dispatcher.Handles
import Querent.Proofs.Session.Reception

/-! Handles over the life of a session. While frames are served the dispatcher holds the only handle
that is open, and whichever way it stops serving, it closes that one before it ends. An attachment that
is being made when the session is closed is no exception, because its frame is answered first. -/
namespace Querent.Session
open Database (Handle)
open Dispatcher (after Accounted Opened)

def Dispatching.released : Dispatching → Bool
  | .ending _ => true
  | .finished => true
  | _ => false

theorem History.answeredAfter (h : History) (s : Session) {a : Action} (other : ∀ w, a ≠ .answer w) :
    (h.after s a).answered = h.answered := by
  cases a with
  | answer w => exact absurd rfl (other w)
  | receive at_ e =>
    simp only [History.after]
    split <;> rfl
  | dispatcherStops =>
    simp only [History.after]
    split <;> rfl
  | _ => rfl

def Follows (rules : Dispatcher.Rules) (s : Session) (h : History) : Prop :=
  s.dispatcher =
    if s.dispatching.released then (after rules h.answered).shutdown else after rules h.answered

section Steps
variable {rules : Dispatcher.Rules} {s : Session} {h : History}

theorem followsServing (before : Follows rules s h) (serving : s.dispatching.released = false) :
    s.dispatcher = after rules h.answered := by
  rw [before,serving]
  rfl

theorem followsSame {s' : Session} {a : Action} (before : Follows rules s h)
    (other : ∀ w, a ≠ .answer w) (dispatcher : s'.dispatcher = s.dispatcher)
    (released : s'.dispatching.released = s.dispatching.released) :
    Follows rules s' (h.after s a) := by
  unfold Follows
  rw [History.answeredAfter h s other,dispatcher,released]
  exact before

theorem followsAnswer {f : Frame} (before : Follows rules s h) (w : World)
    (handling : s.dispatching = .handling f) :
    Follows rules { s with
        dispatching := .holding (s.dispatcher.dispatch rules w f).response
        dispatcher := (s.dispatcher.dispatch rules w f).state
        events := s.events ++ (s.dispatcher.dispatch rules w f).events }
      (h.after s (.answer w)) := by
  have here := followsServing before (by rw [handling]; rfl)
  have noted : (h.after s (.answer w)).answered = h.answered ++ [(w,f)] := by
    simp [History.after,handling]
  unfold Follows
  rw [noted,Dispatcher.afterSnoc,← here]
  rfl

theorem followsRelease (before : Follows rules s h) (closing : s.dispatching = .closing) :
    Follows rules { s with dispatching := .ending .claim, dispatcher := s.dispatcher.shutdown }
      (h.after s .release) := by
  have here := followsServing before (by rw [closing]; rfl)
  unfold Follows
  rw [History.answeredAfter h s (by simp),here]
  rfl

theorem followsMove {r r' : Registry} {s' : Session} {a : Action} (before : Follows rules s h)
    (move : Move rules r s a r' s') : Follows rules s' (h.after s a) := by
  cases move with
  | answer handling => exact followsAnswer before _ handling
  | release closing => exact followsRelease before closing
  | @receive _ at_ e reading =>
    obtain ⟨reader,inbound,outbound,same⟩ := receiveFrame s at_ e
    rw [same]
    exact followsSame before (by simp) rfl rfl
  | take idle waiting quiet => exact followsSame before (by simp) rfl (by rw [idle]; rfl)
  | push holding quiet writing room => exact followsSame before (by simp) rfl (by rw [holding]; rfl)
  | abandon holding lost => exact followsSame before (by simp) rfl (by rw [holding]; rfl)
  | dispatcherStops idle done => exact followsSame before (by simp) rfl (by rw [idle]; rfl)
  | @dispatcherEnds t r' alive signalled next ending torn =>
    refine followsSame before (by simp) rfl ?_
    rw [ending]
    cases next <;> rfl
  | _ => exact followsSame before (by simp) rfl rfl

end Steps

theorem reachableFollows {rules : Dispatcher.Rules} {id : Id} {l : Limits} {now : Nat} {s : Session}
    {h : History} (run : Reachable rules id l now s h) : Follows rules s h := by
  induction run with
  | start => rfl
  | step _ taken ih => exact followsMove ih (moveOfStep taken)

inductive WayOut (s : Session) : Prop where
  | signalled (idle : s.dispatching = .idle) (given : s.signalled = true)
  | inboundEnded (idle : s.dispatching = .idle) (empty : s.inbound = []) (noReader : s.reader = .finished)
  | signalledHolding {response} (holding : s.dispatching = .holding response)
      (given : s.signalled = true)
  | outboundEnded {response} (holding : s.dispatching = .holding response)
      (noWriter : s.writer = .finished)

theorem wayOutOfMove {rules : Dispatcher.Rules} {r r' : Registry} {s s' : Session} {a : Action}
    (move : Move rules r s a r' s') (serves : s.dispatching.serves = true)
    (stops : s'.dispatching.serves = false) : WayOut s ∧ s'.dispatching = .closing := by
  cases move with
  | dispatcherStops idle done =>
    refine ⟨?_,rfl⟩
    rcases done with given | ⟨empty,noReader⟩
    · exact .signalled idle given
    · exact .inboundEnded idle empty noReader
  | abandon holding lost =>
    refine ⟨?_,rfl⟩
    rcases lost with given | noWriter
    · exact .signalledHolding holding given
    · exact .outboundEnded holding noWriter
  | @receive _ at_ e reading =>
    obtain ⟨reader,inbound,outbound,same⟩ := receiveFrame s at_ e
    rw [same,serves] at stops
    contradiction
  | release closing =>
    rw [closing] at serves
    contradiction
  | dispatcherEnds ending torn =>
    rw [ending] at serves
    contradiction
  | take | answer | push => contradiction
  | _ =>
    rw [serves] at stops
    contradiction

structure HandlesKept (rules : Dispatcher.Rules) (s : Session) (h : History) : Prop where
  serving : s.dispatching.released = false → Accounted s.dispatcher (Opened rules h.answered)
  released : s.dispatching.released = true → s.dispatcher.attached = none ∧
    ∀ {handle}, Opened rules h.answered handle → s.dispatcher.ledger.isClosed handle = true
  wayOut : ∀ {r a r' s'}, step rules r s a = some (r',s') → s.dispatching.serves = true →
    s'.dispatching.serves = false → WayOut s ∧ s'.dispatching = .closing

theorem handlesKept {rules : Dispatcher.Rules} {id : Id} {l : Limits} {now : Nat} {s : Session}
    {h : History} (run : Reachable rules id l now s h) : HandlesKept rules s h := by
  have follows := reachableFollows run
  refine ⟨?_,?_,fun taken => wayOutOfMove (moveOfStep taken)⟩
  · intro serving
    rw [followsServing follows serving]
    exact Dispatcher.accountedAfter rules h.answered
  · intro released
    have here : s.dispatcher = (after rules h.answered).shutdown := by
      rw [follows,released]
      rfl
    rw [here]
    exact ⟨Dispatcher.shutdownAttached _,Dispatcher.closedByShutdown⟩

theorem handlesAccountedFor (rules : Dispatcher.Rules) :
    (∀ frames, Accounted (after rules frames) (Opened rules frames)) ∧
      ∀ {id l now s h}, Reachable rules id l now s h → HandlesKept rules s h :=
  ⟨Dispatcher.accountedAfter rules,handlesKept⟩

theorem attachedWhileClosing :
    ∃ rules s h, Reachable rules "a" ⟨60000,50000,1,1⟩ 0 s h ∧ s.dispatching = .finished ∧
      Opened rules h.answered ⟨0,.sqlite,"first"⟩ ∧
      s.dispatcher.ledger.isClosed ⟨0,.sqlite,"first"⟩ = true := by
  let t : Instant := ⟨0,0⟩
  let w : World := ⟨t,.empty,fun _ _ => .ok (),fun _ _ => ⟨.ok [],fun _ => .ok []⟩,fun _ _ => []⟩
  let rules : Dispatcher.Rules := ⟨⟨⟨[]⟩,1⟩,""⟩
  let r : Registry := .empty
  let m : Message := ⟨Message.attachKind,
    .object [("engine",.text "sqlite"), ("db",.text "main"), ("url",.text "first")],t⟩
  let sent := "\x7b\"type\":\"attach-database\",\"payload\":\x7b\"engine\":\"sqlite\"," ++
    "\"db\":\"main\",\"url\":\"first\"\x7d\x7d"
  have frame : Frame.read sent t = .message m := by decide +kernel
  have taken : Reachable rules "a" ⟨60000,50000,1,1⟩ 0 _ _ :=
    .step (r := r) (a := .take) (.step (r := r) (a := .receive t (.text sent)) .start rfl) rfl
  have closed := Reachable.step (r := r) (a := .callEnds 0) (.step (r := r) (a := .callEnds 0)
    (.step (r := r) (a := .call) taken rfl) rfl) rfl
  have ended := Reachable.step (r := r) (a := .dispatcherEnds) (.step (r := r) (a := .release)
    (.step (r := r) (a := .dispatcherStops) (.step (r := r) (a := .answer w) closed rfl) rfl) rfl) rfl
  have opens : Dispatcher.Opens (after rules []) w (.message m) ⟨0,.sqlite,"first"⟩ :=
    .intro rfl rfl (by decide +kernel) rfl
  have opened : Opened rules [(w,.read sent t)] ⟨0,.sqlite,"first"⟩ := by
    rw [frame]
    exact @Opened.now rules [] _ _ _ opens
  exact ⟨rules,_,_,ended,rfl,opened,(((handlesAccountedFor rules).2 ended).released rfl).2 opened⟩

end Querent.Session
