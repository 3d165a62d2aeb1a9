import Querent.Proofs.Session.Lifeline

/-! Frames that come faster than they are answered. The reader drops a frame exactly when the queue is
full, and says so if there is room for that. All that it queues is answered in order. A client that
waits for its answers, so that no more frames than the queue can hold are without one, loses nothing. -/
namespace Querent.Session

inductive Traced (rules : Dispatcher.Rules) (id : Id) (l : Limits) (now : Nat) :
    Session → List Taken → Prop where
  | start : Traced rules id l now (initial id l now) []
  | step {s trace a r r' s'} (before : Traced rules id l now s trace)
      (taken : step rules r s a = some (r',s')) :
      Traced rules id l now s' (trace ++ [⟨a,(r,s),(r',s')⟩])

namespace Taken

def arrives (t : Taken) : List Frame :=
  match t.action with
  | .receive at_ e => e.frames at_
  | _ => []

def queues (t : Taken) : List Frame := t.after.2.inbound.drop t.before.2.inbound.length

def drops (t : Taken) : List Frame :=
  if t.queues = [] ∧ t.after.2.reader = t.before.2.reader then t.arrives else []

def dispatches (t : Taken) : List Frame :=
  match t.action with
  | .answer _ => t.before.2.dispatching.frames
  | _ => []

def pushes (t : Taken) : List Response := t.after.2.outbound.drop t.before.2.outbound.length

end Taken

def busies (responses : List Response) : List Response :=
  responses.filter (·.kind = Response.busyKind)

def handedResponses (s : Session) : List Response := s.handed.flatMap (·.responses)

structure Admits (l : Limits) (t : Taken) (at_ : Instant) (f : Frame) : Prop where
  full : t.before.2.inbound.length = l.inbound →
    t.drops = [f] ∧ t.after.2.inbound = t.before.2.inbound ∧
      t.pushes = if t.before.2.allowsBusy then [busy at_] else []
  room : t.before.2.inbound.length ≠ l.inbound →
    t.drops = [] ∧ t.after.2.inbound = t.before.2.inbound ++ [f] ∧ t.pushes = []

/-- A client that after no step has more than `room` frames sent and not answered. What it has sent may
not have arrived yet, and what was handed to the transport may not have reached it. -/
structure Paced (room : Nat) (steps : List Taken) (sent answered : Nat → Nat) : Prop where
  arrived : ∀ i < steps.length, ((steps.take (i + 1)).flatMap Taken.arrives).length ≤ sent i
  reached : ∀ i (within : i < steps.length), answered i ≤ steps[i].after.2.handedResponses.length
  pace : ∀ i < steps.length, sent i ≤ answered i + room

@[simp] theorem busiesNone : busies [] = [] := rfl

@[simp] theorem busiesBusy (at_ : Instant) : busies [busy at_] = [busy at_] := rfl

@[simp] theorem busiesAppend (first second : List Response) :
    busies (first ++ second) = busies first ++ busies second := List.filter_append ..

theorem busiesAnswer {response : Response} (answer : answers [response] = [response]) :
    busies [response] = [] := by
  have other : response.kind ≠ Response.busyKind := by simpa [answers] using answer
  simp [busies,other]

theorem answersOfBusies {responses : List Response} (none : busies responses = []) :
    answers responses = responses := by
  simpa [busies,answers,List.filter_eq_nil_iff,List.filter_eq_self] using none

section Steps
variable {rules : Dispatcher.Rules} {r r' : Registry} {s s' : Session} {a : Action}

theorem boundedMove (bounded : s.inbound.length ≤ s.limits.inbound) (move : Move rules r s a r' s') :
    s'.inbound.length ≤ s'.limits.inbound := by
  cases move with
  | @receive _ at_ e reading =>
    have received := receptionOf s at_ e
    generalize e.frames at_ = frames,s.receive at_ e = s' at received
    cases received with
    | queued serving room =>
      simp only [List.length_append,List.length_singleton]
      omega
    | ignored | renewed | stopped | ended | lost | dropped => exact bounded
  | take idle waiting =>
    rw [waiting,List.length_cons] at bounded
    exact Nat.le_of_succ_le bounded
  | _ => exact bounded

theorem onceMove (move : Move rules r s a r' s') :
    let t : Taken := ⟨a,(r,s),(r',s')⟩
    t.queues ++ t.drops <+: t.arrives := by
  cases move with
  | @receive deadline at_ e reading =>
    have received := receptionOf s at_ e
    simp only [Taken.queues,Taken.drops,Taken.arrives]
    generalize e.frames at_ = frames,s.receive at_ e = s' at received
    cases received with
    | lost => simp [reading]
    | ignored | renewed | stopped | ended | queued | dropped => simp
  | take idle waiting => simp [Taken.queues,Taken.drops,Taken.arrives,waiting]
  | _ => simp [Taken.queues,Taken.drops,Taken.arrives]

theorem pushedMove (move : Move rules r s a r' s') :
    s'.handedResponses ++ s'.outbound =
      s.handedResponses ++ s.outbound ++ Taken.pushes ⟨a,(r,s),(r',s')⟩ := by
  cases move with
  | @receive deadline at_ e reading =>
    have received := receptionOf s at_ e
    simp only [Taken.pushes]
    generalize e.frames at_ = frames,s.receive at_ e = s' at received
    cases received <;> simp [handedResponses]
  | write waiting queued =>
    simp [Taken.pushes,handedResponses,queued,Outgoing.responses]
  | _ => simp [Taken.pushes,handedResponses,Outgoing.responses]

theorem busyMove {h : History} (ordered : Ordered rules s h) (move : Move rules r s a r' s') :
    let t : Taken := ⟨a,(r,s),(r',s')⟩
    (busies t.pushes).length ≤ t.drops.length := by
  cases move with
  | @receive deadline at_ e reading =>
    have received := receptionOf s at_ e
    simp only [Taken.pushes,Taken.queues,Taken.drops,Taken.arrives]
    generalize e.frames at_ = frames,s.receive at_ e = s' at received
    cases received with
    | dropped =>
      split <;> simp
    | ignored | renewed | stopped | ended | lost | queued => simp
  | @push response holding =>
    have answer : answers [response] = [response] := by
      have held := ordered.held
      rw [holding] at held
      exact held
    simp [Taken.pushes,busiesAnswer answer]
  | @write tick response rest waiting queued =>
    have nothing : rest.drop (rest.length + 1) = [] := List.drop_eq_nil_of_le (Nat.le_succ _)
    simp [Taken.pushes,queued,nothing]
  | _ => simp [Taken.pushes]

theorem admitsMove {at_ : Instant} {e : Incoming} {f : Frame}
    (bounded : s.inbound.length ≤ s.limits.inbound) (serving : s.dispatching ≠ .finished)
    (arrived : e.frames at_ = [f]) (move : Move rules r s (.receive at_ e) r' s') :
    Admits s.limits ⟨.receive at_ e,(r,s),(r',s')⟩ at_ f := by
  cases move with
  | receive reading =>
    have received := receptionOf s at_ e
    rw [arrived] at received
    have arrives : Taken.arrives ⟨.receive at_ e,(r,s),(r,s.receive at_ e)⟩ = [f] := arrived
    generalize s.receive at_ e = s' at received arrives
    cases received with
    | lost finished => exact absurd finished serving
    | queued _ room =>
      refine ⟨fun full => absurd full (Nat.ne_of_lt room),fun _ => ⟨?_,rfl,?_⟩⟩
      · simp [Taken.drops,Taken.queues]
      · simp [Taken.pushes]
    | dropped _ full =>
      refine ⟨fun _ => ⟨?_,rfl,?_⟩,fun room => absurd (Nat.le_antisymm bounded full) room⟩
      · simp [Taken.drops,Taken.queues,arrives]
      · simp [Taken.pushes]

theorem dropsMove (move : Move rules r s a r' s') :
    let t : Taken := ⟨a,(r,s),(r',s')⟩
    t.drops = [] ∨ s.limits.inbound ≤ s.inbound.length ∧ 0 < t.arrives.length ∧
      s'.handedResponses = s.handedResponses := by
  cases move with
  | @receive deadline at_ e reading =>
    have received := receptionOf s at_ e
    simp only [Taken.queues,Taken.drops,Taken.arrives]
    generalize e.frames at_ = frames,s.receive at_ e = s' at received
    cases received with
    | lost => simp [reading]
    | ignored | renewed | stopped | ended | queued => simp
    | dropped _ full => exact .inr ⟨full,Nat.one_pos,rfl⟩
  | _ => simp [Taken.drops,Taken.arrives]

theorem controlMove (control : a = .ping ∨ ∃ at_, a = .receive at_ .ping ∨ a = .receive at_ .pong)
    (move : Move rules r s a r' s') : s'.inbound = s.inbound ∧ s'.outbound = s.outbound := by
  rcases control with rfl | ⟨at_,rfl | rfl⟩ <;> cases move <;> exact ⟨rfl,rfl⟩

theorem queuedMove (h : History) (move : Move rules r s a r' s') :
    (h.after s a).queued = h.queued ++ Taken.queues ⟨a,(r,s),(r',s')⟩ := by
  cases move with
  | @receive deadline at_ e reading =>
    have received := receptionOf s at_ e
    simp only [Taken.queues,History.after,accepts]
    generalize e.frames at_ = frames,s.receive at_ e = s' at received
    cases received with
    | ignored | renewed | stopped | ended => simp
    | lost finished => simp [finished]
    | queued serving room => simp [serving,room]
    | dropped serving full => simp [Nat.not_lt.mpr full]
  | take idle waiting => simp [Taken.queues,History.after,waiting]
  | answer handling => simp [Taken.queues,History.after,handling]
  | abandon holding => simp [Taken.queues,History.after,holding]
  | dispatcherStops idle => simp [Taken.queues,History.after,idle]
  | _ => simp [Taken.queues,History.after]

theorem dispatchedMove (h : History) (move : Move rules r s a r' s') :
    (h.after s a).answered.map Prod.snd =
      h.answered.map Prod.snd ++ Taken.dispatches ⟨a,(r,s),(r',s')⟩ := by
  cases move with
  | receive reading =>
    simp only [Taken.dispatches,History.after]
    split <;> simp
  | answer handling => simp [Taken.dispatches,History.after,handling,Dispatching.frames]
  | abandon holding => simp [Taken.dispatches,History.after,holding]
  | dispatcherStops idle => simp [Taken.dispatches,History.after,idle]
  | _ => simp [Taken.dispatches,History.after]

end Steps

section Runs
variable {rules : Dispatcher.Rules} {id : Id} {l : Limits} {now : Nat} {s : Session}
  {trace : List Taken}

structure Kept (l : Limits) (s : Session) : Prop where
  lifeline : Lifeline s
  limits : s.limits = l
  bounded : s.inbound.length ≤ s.limits.inbound

theorem keptMove {r r' : Registry} {s' : Session} {a : Action} (kept : Kept l s)
    (move : Move rules r s a r' s') : Kept l s' :=
  ⟨lifelineMove kept.lifeline move,(fixedMove move).2.trans kept.limits,boundedMove kept.bounded move⟩

theorem keptTraced (traced : Traced rules id l now s trace) : Kept l s := by
  induction traced with
  | start => exact ⟨lifelineInitial id l now,rfl,Nat.zero_le _⟩
  | step before taken ih => exact keptMove ih (moveOfStep taken)

theorem movesTraced (traced : Traced rules id l now s trace) : ∀ t ∈ trace,
    Kept l t.before.2 ∧ Move rules t.before.1 t.before.2 t.action t.after.1 t.after.2 := by
  induction traced with
  | start => simp
  | step before taken ih =>
    intro t member
    rcases List.mem_append.mp member with earlier | last
    · exact ih t earlier
    · cases List.mem_singleton.mp last
      exact ⟨keptTraced before,moveOfStep taken⟩

theorem historyTraced (traced : Traced rules id l now s trace) : ∃ h, Ordered rules s h ∧
    h.queued = trace.flatMap Taken.queues ∧
    h.answered.map Prod.snd = trace.flatMap Taken.dispatches := by
  induction traced with
  | start => exact ⟨.empty,orderedInitial ..,rfl,rfl⟩
  | @step s trace a r r' s' before taken ih =>
    obtain ⟨h,ordered,queued,dispatched⟩ := ih
    have move := moveOfStep taken
    refine ⟨h.after s a,orderedMove ordered move,?_,?_⟩
    · simp [queuedMove h move,queued]
    · simp [dispatchedMove h move,dispatched]

theorem pushedTraced (traced : Traced rules id l now s trace) :
    trace.flatMap Taken.pushes = s.handedResponses ++ s.outbound := by
  induction traced with
  | start => rfl
  | step before taken ih => simp [pushedMove (moveOfStep taken),ih]

theorem busyTraced (traced : Traced rules id l now s trace) :
    (busies (trace.flatMap Taken.pushes)).length ≤ (trace.flatMap Taken.drops).length := by
  induction traced with
  | start => exact Nat.le_refl _
  | step before taken ih =>
    obtain ⟨h,ordered,_⟩ := historyTraced before
    have here := busyMove ordered (moveOfStep taken)
    simp only [List.flatMap_append,List.flatMap_singleton,busiesAppend,List.length_append]
    omega

theorem arrivedTraced (traced : Traced rules id l now s trace) :
    (trace.flatMap Taken.queues).length ≤ (trace.flatMap Taken.arrives).length := by
  induction traced with
  | start => exact Nat.le_refl _
  | step before taken ih =>
    have once := (onceMove (moveOfStep taken)).length_le
    simp only [List.flatMap_append,List.flatMap_singleton,List.length_append] at once ⊢
    omega

theorem Paced.before {room : Nat} {t : Taken} {sent answered : Nat → Nat}
    (paced : Paced room (trace ++ [t]) sent answered) : Paced room trace sent answered := by
  have within {i : Nat} (here : i < trace.length) : i < (trace ++ [t]).length := by
    rw [List.length_append]
    exact Nat.lt_add_right _ here
  refine ⟨?_,?_,fun i here => paced.pace i (within here)⟩
  · intro i here
    have arrived := paced.arrived i (within here)
    rw [List.take_append_of_le_length here] at arrived
    exact arrived
  · intro i here
    have reached := paced.reached i (within here)
    rw [List.getElem_append_left here] at reached
    exact reached

theorem silentTraced (traced : Traced rules id l now s trace)
    (none : trace.flatMap Taken.drops = []) : busies s.handedResponses = [] := by
  have busy := busyTraced traced
  rw [none,pushedTraced traced,busiesAppend,List.length_append,List.length_nil] at busy
  exact List.eq_nil_of_length_eq_zero (by omega)

theorem handedOfOrdered {h : History} (ordered : Ordered rules s h) :
    s.handedAnswers.length ≤ h.answered.length := by
  have counted := congrArg List.length ordered.responses
  simp only [Dispatcher.responses,List.length_map,Dispatcher.outcomesLength,
    List.length_append] at counted
  omega

theorem dropsPaced {sent answered : Nat → Nat} (traced : Traced rules id l now s trace)
    (paced : Paced l.inbound trace sent answered) : trace.flatMap Taken.drops = [] := by
  induction traced with
  | start => rfl
  | @step s trace a r r' s' before taken ih =>
    have none := ih paced.before
    have move := moveOfStep taken
    rw [List.flatMap_append,none,List.nil_append,List.flatMap_singleton]
    rcases dropsMove move with nothing | ⟨full,arrives,handed⟩
    · exact nothing
    · exfalso
      obtain ⟨h,ordered,queued,dispatched⟩ := historyTraced before
      have waiting : h.answered.length + s.inbound.length ≤ h.queued.length := by
        simp only [ordered.queued,ordered.taken,List.length_append,List.length_map]
        omega
      have all : s.handedAnswers = s.handedResponses := answersOfBusies (silentTraced before none)
      have known := handedOfOrdered ordered
      rw [all] at known
      have arrived := arrivedTraced before
      have last : trace.length < (trace ++ [Taken.mk a (r,s) (r',s')]).length := by simp
      have sent := paced.arrived trace.length last
      have reached := paced.reached trace.length last
      have pace := paced.pace trace.length last
      rw [List.take_of_length_le (by simp),List.flatMap_append,List.flatMap_singleton,
        List.length_append] at sent
      rw [List.getElem_concat_length rfl,handed] at reached
      rw [(keptTraced before).limits] at full
      rw [queued] at waiting
      omega

end Runs

structure Metered (l : Limits) (s : Session) (trace : List Taken) : Prop where
  bounded : s.inbound.length ≤ l.inbound
  admits : ∀ t ∈ trace, ∀ at_ e f, t.action = .receive at_ e → e.frames at_ = [f] →
    t.before.2.alive = true ∨ t.before.2.dispatching ≠ .finished → Admits l t at_ f
  once : ∀ t ∈ trace, t.queues ++ t.drops <+: t.arrives
  queued : trace.flatMap Taken.queues =
    trace.flatMap Taken.dispatches ++ s.dispatching.frames ++ s.inbound
  pushed : trace.flatMap Taken.pushes = s.handedResponses ++ s.outbound
  busy : (busies (trace.flatMap Taken.pushes)).length ≤ (trace.flatMap Taken.drops).length
  control : ∀ t ∈ trace, (t.action = .ping ∨
      ∃ at_, t.action = .receive at_ .ping ∨ t.action = .receive at_ .pong) →
    t.after.2.inbound = t.before.2.inbound ∧ t.after.2.outbound = t.before.2.outbound
  paced : ∀ sent answered, Paced l.inbound trace sent answered →
    trace.flatMap Taken.drops = [] ∧ busies (s.handedResponses ++ s.outbound) = []

theorem droppedOnlyWhenFull {rules : Dispatcher.Rules} {id : Id} {l : Limits} {now : Nat}
    {s : Session} {trace : List Taken} (traced : Traced rules id l now s trace) :
    Metered l s trace := by
  have kept := keptTraced traced
  have moves := movesTraced traced
  refine ⟨?_,?_,?_,?_,pushedTraced traced,busyTraced traced,?_,?_⟩
  · rw [← kept.limits]
    exact kept.bounded
  · rintro ⟨_,⟨r,s⟩,r',s'⟩ member at_ e f rfl arrived runs
    obtain ⟨before,move⟩ := moves _ member
    have serving : s.dispatching ≠ .finished := by
      rcases runs with alive | serving
      · intro finished
        have ended := before.lifeline.dispatcher finished
        exact Bool.noConfusion (ended.symm.trans alive)
      · exact serving
    have admits := admitsMove before.bounded serving arrived move
    rw [before.limits] at admits
    exact admits
  · intro t member
    exact onceMove (moves t member).2
  · obtain ⟨h,ordered,queued,dispatched⟩ := historyTraced traced
    rw [← queued,← dispatched,ordered.queued,ordered.taken]
  · intro t member control
    exact controlMove control (moves t member).2
  · intro sent answered paced
    have none := dropsPaced traced paced
    refine ⟨none,?_⟩
    rw [← pushedTraced traced]
    have busy := busyTraced traced
    rw [none] at busy
    exact List.eq_nil_of_length_eq_zero (Nat.le_zero.mp busy)

theorem droppedAfterImpatience :
    ∃ rules s trace t, Traced rules "a" ⟨60000,50000,1,1⟩ 0 s (trace ++ [t]) ∧
      Paced 1 trace (fun i => if i < 5 then 1 else 2) (fun i => if i < 4 then 0 else 1) ∧
      t.drops.length = 1 ∧ (busies t.pushes).length = 1 ∧
      Metered ⟨60000,50000,1,1⟩ s (trace ++ [t]) := by
  let at_ : Instant := ⟨0,0⟩
  let w : World := ⟨at_,.empty,fun _ _ => .error .unreachable,
    fun _ _ => ⟨.ok [],fun _ => .ok []⟩,fun _ _ => []⟩
  let rules : Dispatcher.Rules := ⟨⟨⟨[]⟩,1⟩,""⟩
  let r : Registry := .empty
  have first : Traced rules "a" ⟨60000,50000,1,1⟩ 0 _ _ :=
    .step (r := r) (a := .write) (.step (r := r) (a := .push) (.step (r := r) (a := .answer w)
      (.step (r := r) (a := .take) (.step (r := r) (a := .receive at_ (.text "first"))
        .start rfl) rfl) rfl) rfl) rfl
  have second := Traced.step (r := r) (a := .receive at_ (.text "second")) first rfl
  have third := Traced.step (r := r) (a := .receive at_ (.text "third")) second rfl
  refine ⟨rules,_,_,_,third,⟨?_,?_,?_⟩,rfl,rfl,droppedOnlyWhenFull third⟩ <;> decide

end Querent.Session
