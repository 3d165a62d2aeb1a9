import Querent.Proofs.Dispatcher.Run
import Querent.Proofs.Session.Moves

/-! The order of frames and responses in a session. Whatever the order in which the tasks take their
steps, frames are answered as they came, and the responses reach the transport as if one frame after
another had been answered with nothing beside it. What is lost is one response at most, and only when
the session ends while the dispatcher waits to queue it. -/
namespace Querent.Session

structure History where
  queued : List Frame
  taken : List Frame
  answered : List (World × Frame)
  abandoned : Option Response

def History.empty : History := ⟨[],[],[],none⟩

def accepts (s : Session) : Bool :=
  s.dispatching ≠ .finished && s.inbound.length < s.limits.inbound

def Incoming.frames (at_ : Instant) : Incoming → List Frame
  | .text t => [.read t at_]
  | .binary octets => [.readOctets octets at_]
  | _ => []

def History.after (h : History) (s : Session) : Action → History
  | .receive at_ e => if s.accepts then { h with queued := h.queued ++ e.frames at_ } else h
  | .take => { h with taken := h.taken ++ s.inbound.take 1 }
  | .answer w => match s.dispatching with
    | .handling f => { h with answered := h.answered ++ [(w,f)] }
    | _ => h
  | .dispatcherStops => match s.dispatching with
    | .holding response => { h with abandoned := some response }
    | _ => h
  | _ => h

/-- The states of a session that some order of steps leads to. Other sessions may change the registry
between any two steps. -/
inductive Reachable (rules : Dispatcher.Rules) (id : Id) (l : Limits) (now : Nat) :
    Session → History → Prop where
  | start : Reachable rules id l now (initial id l now) .empty
  | step {s h a r r' s'} (before : Reachable rules id l now s h)
      (taken : step rules r s a = some (r',s')) : Reachable rules id l now s' (h.after s a)

def Dispatching.frames : Dispatching → List Frame
  | .handling f => [f]
  | _ => []

def Dispatching.responses : Dispatching → List Response
  | .holding response => [response]
  | _ => []

def Dispatching.serves : Dispatching → Bool
  | .idle => true
  | .handling _ => true
  | .holding _ => true
  | _ => false

def Outgoing.responses : Outgoing → List Response
  | .response r => [r]
  | _ => []

def answers (responses : List Response) : List Response :=
  responses.filter (·.kind ≠ Response.busyKind)

def handedAnswers (s : Session) : List Response := answers (s.handed.flatMap (·.responses))

@[simp] theorem answersNone : answers [] = [] := rfl

@[simp] theorem answersAppend (first second : List Response) :
    answers (first ++ second) = answers first ++ answers second := List.filter_append ..

@[simp] theorem answersBusy (at_ : Instant) : answers [busy at_] = [] := rfl

theorem answersOfDispatch (d : Dispatcher) (rules : Dispatcher.Rules) (w : World) (f : Frame) :
    answers [(d.dispatch rules w f).response] = [(d.dispatch rules w f).response] := by
  simp [answers,Dispatcher.dispatchNotBusy]

structure Ordered (rules : Dispatcher.Rules) (s : Session) (h : History) : Prop where
  queued : h.queued = h.taken ++ s.inbound
  taken : h.taken = h.answered.map Prod.snd ++ s.dispatching.frames
  state : s.dispatching.serves = true → s.dispatcher = .after rules h.answered
  responses : Dispatcher.responses rules h.answered =
    s.handedAnswers ++ answers s.outbound ++ s.dispatching.responses ++ h.abandoned.toList
  held : answers s.dispatching.responses = s.dispatching.responses
  stopped : h.abandoned ≠ none →
    s.dispatching.serves = false ∧ (s.signalled = true ∨ s.writer = .finished)

theorem orderedInitial (rules : Dispatcher.Rules) (id : Id) (l : Limits) (now : Nat) :
    Ordered rules (initial id l now) .empty where
  queued := rfl
  taken := rfl
  state _ := rfl
  responses := rfl
  held := rfl
  stopped h := absurd rfl h

theorem enqueueAccepted {s : Session} (at_ : Instant) (f : Frame) (room : s.accepts = true) :
    s.enqueue at_ f = { s with inbound := s.inbound ++ [f] } := by
  simp only [accepts,Bool.and_eq_true,decide_eq_true_eq] at room
  simp only [enqueue,if_neg room.1,if_pos room.2]

theorem enqueueRefused {s : Session} (at_ : Instant) (f : Frame) (full : s.accepts = false) :
    s.enqueue at_ f = { s with reader := .ending .claim } ∨
      s.enqueue at_ f = { s with outbound := s.outbound ++ [busy at_] } ∨ s.enqueue at_ f = s := by
  simp only [accepts,Bool.and_eq_false_iff,decide_eq_false_iff_not,ne_eq,Decidable.not_not] at full
  unfold enqueue
  split
  · exact .inl rfl
  · rename_i serving
    rw [if_neg (full.resolve_left serving)]
    split
    · exact .inr (.inl rfl)
    · exact .inr (.inr rfl)

section Steps
variable {rules : Dispatcher.Rules} {s : Session} {h : History}

theorem orderedEnqueue (before : Ordered rules s h) (at_ : Instant) (f : Frame) :
    Ordered rules (s.enqueue at_ f)
      (if s.accepts then { h with queued := h.queued ++ [f] } else h) := by
  cases room : s.accepts with
  | true =>
    rw [enqueueAccepted at_ f room]
    refine ⟨?_,before.taken,before.state,before.responses,before.held,before.stopped⟩
    simp [before.queued]
  | false =>
    rcases enqueueRefused at_ f room with same | same | same <;> rw [same]
    · exact ⟨before.queued,before.taken,before.state,before.responses,before.held,before.stopped⟩
    · refine ⟨before.queued,before.taken,before.state,?_,before.held,before.stopped⟩
      simpa [handedAnswers] using before.responses
    · exact before

theorem orderedReceive (before : Ordered rules s h) (at_ : Instant) (e : Incoming) :
    Ordered rules (s.receive at_ e) (h.after s (.receive at_ e)) := by
  have silent : (if s.accepts then { h with queued := h.queued ++ [] } else h) = h := by simp
  cases e with
  | text t => exact orderedEnqueue before at_ _
  | binary octets => exact orderedEnqueue before at_ _
  | ping =>
    simp only [History.after,Incoming.frames,silent]
    exact before
  | pong | close | failed | ended =>
    simp only [History.after,Incoming.frames,silent]
    exact ⟨before.queued,before.taken,before.state,before.responses,before.held,before.stopped⟩

theorem Ordered.kept (before : Ordered rules s h) (serving : s.dispatching.serves = true) :
    h.abandoned = none := by
  cases lost : h.abandoned with
  | none => rfl
  | some response =>
    have stopped := (before.stopped (by simp [lost])).1
    simp [serving] at stopped

theorem orderedTear {r r' : Registry} {t : Teardown} {alive signalled next}
    (before : Ordered rules s h) (torn : tear r s t = (r',{ s with alive, signalled },next)) :
    Ordered rules { s with alive, signalled } h := by
  refine ⟨before.queued,before.taken,before.state,before.responses,before.held,?_⟩
  intro lost
  obtain ⟨stopped,why⟩ := before.stopped lost
  exact ⟨stopped,why.imp_left (tearSignalled torn)⟩

theorem orderedTake {f : Frame} {rest : List Frame} (before : Ordered rules s h)
    (idle : s.dispatching = .idle) (waiting : s.inbound = f :: rest) :
    Ordered rules { s with dispatching := .handling f, inbound := rest } (h.after s .take) := by
  have kept := before.kept (by rw [idle]; rfl)
  obtain ⟨queued,taken,state,responses,held,stopped⟩ := before
  rw [idle] at taken state responses
  refine ⟨?_,?_,fun _ => state rfl,responses,rfl,fun lost => absurd kept lost⟩
  · simp [History.after,queued,waiting]
  · simpa [History.after,waiting,Dispatching.frames] using taken

theorem orderedAnswer {f : Frame} (before : Ordered rules s h) (w : World)
    (handling : s.dispatching = .handling f) :
    Ordered rules { s with
        dispatching := .holding (s.dispatcher.dispatch rules w f).response
        dispatcher := (s.dispatcher.dispatch rules w f).state
        events := s.events ++ (s.dispatcher.dispatch rules w f).events }
      (h.after s (.answer w)) := by
  have kept := before.kept (by rw [handling]; rfl)
  obtain ⟨queued,taken,state,responses,held,stopped⟩ := before
  rw [handling] at taken state responses
  have here := state rfl
  have noted : h.after s (.answer w) = { h with answered := h.answered ++ [(w,f)] } := by
    simp [History.after,handling]
  rw [noted]
  refine ⟨queued,?_,?_,?_,answersOfDispatch ..,fun lost => absurd kept lost⟩
  · simpa [Dispatching.frames] using taken
  · intro _
    simp [Dispatcher.afterSnoc,here]
  · simp only [Dispatcher.responsesSnoc,responses,here,kept]
    simp [Dispatching.responses,handedAnswers]

theorem orderedPush {response : Response} (before : Ordered rules s h)
    (holding : s.dispatching = .holding response) :
    Ordered rules { s with dispatching := .idle, outbound := s.outbound ++ [response] } h := by
  have kept := before.kept (by rw [holding]; rfl)
  obtain ⟨queued,taken,state,responses,held,stopped⟩ := before
  rw [holding] at taken state responses held
  refine ⟨queued,taken,fun _ => state rfl,?_,rfl,fun lost => absurd kept lost⟩
  have same : answers [response] = [response] := held
  simpa [handedAnswers,Dispatching.responses,kept,same] using responses

theorem orderedAbandon {response : Response} (before : Ordered rules s h)
    (holding : s.dispatching = .holding response)
    (lost : s.signalled = true ∨ s.writer = .finished) :
    Ordered rules { s with dispatching := .closing } (h.after s .dispatcherStops) := by
  have kept := before.kept (by rw [holding]; rfl)
  obtain ⟨queued,taken,state,responses,held,stopped⟩ := before
  rw [holding] at taken responses
  have noted : h.after s .dispatcherStops = { h with abandoned := some response } := by
    simp [History.after,holding]
  rw [noted]
  refine ⟨queued,taken,by simp [Dispatching.serves],?_,rfl,fun _ => ⟨rfl,lost⟩⟩
  simpa [Dispatching.responses,handedAnswers,kept] using responses

theorem orderedEnding {d : Dispatching} {dispatcher : Dispatcher} (before : Ordered rules s h)
    (nothing : s.dispatching.frames = [] ∧ s.dispatching.responses = [])
    (ends : d.frames = [] ∧ d.responses = [] ∧ d.serves = false) :
    Ordered rules { s with dispatching := d, dispatcher := dispatcher } h := by
  obtain ⟨queued,taken,state,responses,held,stopped⟩ := before
  rw [nothing.1] at taken
  rw [nothing.2] at responses
  refine ⟨queued,?_,?_,?_,?_,fun lost => ⟨ends.2.2,(stopped lost).2⟩⟩
  · simpa [ends.1] using taken
  · simp [ends.2.2]
  · simpa [ends.2.1,handedAnswers] using responses
  · simp [ends.2.1]

theorem orderedWriter (before : Ordered rules s h) (writing : s.writer ≠ .finished) (w : Writer) :
    Ordered rules { s with writer := w } h := by
  refine ⟨before.queued,before.taken,before.state,before.responses,before.held,?_⟩
  intro lost
  obtain ⟨stops,why⟩ := before.stopped lost
  exact ⟨stops,.inl (why.resolve_right writing)⟩

theorem orderedHand {o : Outgoing} {rest : List Response} (before : Ordered rules s h)
    (front : s.outbound = o.responses ++ rest) :
    Ordered rules { s with handed := s.handed ++ [o], outbound := rest } h := by
  obtain ⟨queued,taken,state,responses,held,stopped⟩ := before
  refine ⟨queued,taken,state,?_,held,stopped⟩
  simpa [handedAnswers,front] using responses

theorem orderedMove {r r' : Registry} {s' : Session} {a : Action} (before : Ordered rules s h)
    (move : Move rules r s a r' s') : Ordered rules s' (h.after s a) := by
  cases move with
  | receive reading => exact orderedReceive before _ _
  | readerEnds ending torn =>
    obtain ⟨queued,taken,state,responses,held,stopped⟩ := orderedTear before torn
    exact ⟨queued,taken,state,responses,held,stopped⟩
  | take idle waiting quiet => exact orderedTake before idle waiting
  | answer handling => exact orderedAnswer before _ handling
  | push holding quiet writing room => exact orderedPush before holding
  | abandon holding lost => exact orderedAbandon before holding lost
  | dispatcherStops idle done =>
    have noted : h.after s .dispatcherStops = h := by simp [History.after,idle]
    rw [noted]
    exact orderedEnding before (by simp [idle,Dispatching.frames,Dispatching.responses])
      ⟨rfl,rfl,rfl⟩
  | release closing =>
    exact orderedEnding before (by simp [closing,Dispatching.frames,Dispatching.responses])
      ⟨rfl,rfl,rfl⟩
  | @dispatcherEnds t r' alive signalled next ending torn =>
    refine orderedEnding (orderedTear before torn)
      (by simp [ending,Dispatching.frames,Dispatching.responses]) ?_
    cases next <;> exact ⟨rfl,rfl,rfl⟩
  | write waiting queued =>
    exact orderedWriter (orderedHand before queued) (by simp [waiting]) _
  | ping waiting due => exact orderedWriter (orderedHand before rfl) (by simp [waiting]) _
  | part waiting given => exact orderedWriter (orderedHand before rfl) (by simp [waiting]) _
  | sent sending => exact orderedWriter before (by simp [sending]) _
  | sendFails sending => exact orderedWriter before (by simp [sending]) _
  | parted parting => exact orderedWriter before (by simp [parting]) _
  | writerStops waiting => exact orderedWriter before (by simp [waiting]) _
  | writerEnds ending torn => exact orderedWriter (orderedTear before torn) (by simp [ending]) _
  | callEnds calling torn =>
    obtain ⟨queued,taken,state,responses,held,stopped⟩ := orderedTear before torn
    exact ⟨queued,taken,state,responses,held,stopped⟩
  | readerStops | readerExpires | call | pass =>
    exact ⟨before.queued,before.taken,before.state,before.responses,before.held,before.stopped⟩

end Steps

theorem reachableOrdered {rules : Dispatcher.Rules} {id : Id} {l : Limits} {now : Nat} {s : Session}
    {h : History} (run : Reachable rules id l now s h) : Ordered rules s h := by
  induction run with
  | start => exact orderedInitial ..
  | step _ taken ih => exact orderedMove ih (moveOfStep taken)

structure InOrder (rules : Dispatcher.Rules) (s : Session) (h : History) : Prop where
  frames : h.queued = h.taken ++ s.inbound
  oneByOne : h.taken = h.answered.map Prod.snd ++ s.dispatching.frames
  nothingLost : h.abandoned = none → Dispatcher.responses rules h.answered =
    s.handedAnswers ++ answers s.outbound ++ s.dispatching.responses
  lastLost : ∀ response, h.abandoned = some response →
    (s.signalled = true ∨ s.writer = .finished) ∧ s.dispatching.serves = false ∧
      Dispatcher.responses rules h.answered = s.handedAnswers ++ answers s.outbound ++ [response]
  handed : s.handedAnswers <+: Dispatcher.responses rules h.answered

theorem framesAndAnswersInOrder {rules : Dispatcher.Rules} {id : Id} {l : Limits} {now : Nat}
    {s : Session} {h : History} (run : Reachable rules id l now s h) : InOrder rules s h := by
  have ordered := reachableOrdered run
  have responses := ordered.responses
  refine ⟨ordered.queued,ordered.taken,?_,?_,?_⟩
  · intro none
    simpa [none] using responses
  · intro response lost
    obtain ⟨stopped,why⟩ := ordered.stopped (by simp [lost])
    have nothing : s.dispatching.responses = [] := by
      cases here : s.dispatching <;> simp_all [Dispatching.serves,Dispatching.responses]
    exact ⟨why,stopped,by simpa [lost,nothing] using responses⟩
  · rw [responses,List.append_assoc,List.append_assoc]
    exact List.prefix_append ..

theorem answerAbandonedAtClose :
    ∃ rules s h, Reachable rules "a" ⟨60000,50000,1,1⟩ 0 s h ∧ h.queued.length = 2 ∧
      h.abandoned.isSome = true ∧ InOrder rules s h := by
  let t : Instant := ⟨0,0⟩
  let w : World := ⟨t,.empty,fun _ _ => .error .unreachable,
    fun _ _ => ⟨.ok [],fun _ => .ok []⟩,fun _ _ => []⟩
  let rules : Dispatcher.Rules := ⟨⟨⟨[]⟩,1⟩,""⟩
  let r : Registry := .empty
  have first : Reachable rules "a" ⟨60000,50000,1,1⟩ 0 _ _ :=
    .step (r := r) (a := .push) (.step (r := r) (a := .answer w) (.step (r := r) (a := .take)
      (.step (r := r) (a := .receive t (.text "first")) .start rfl) rfl) rfl) rfl
  have second := Reachable.step (r := r) (a := .answer w) (.step (r := r) (a := .take)
    (.step (r := r) (a := .receive t (.text "third")) (.step (r := r)
      (a := .receive t (.text "second")) (.step (r := r) (a := .write) first rfl) rfl) rfl) rfl) rfl
  have closed := Reachable.step (r := r) (a := .dispatcherStops) (.step (r := r) (a := .callEnds 0)
    (.step (r := r) (a := .callEnds 0) (.step (r := r) (a := .call) second rfl) rfl) rfl) rfl
  exact ⟨rules,_,_,closed,rfl,rfl,framesAndAnswersInOrder closed⟩

end Querent.Session
