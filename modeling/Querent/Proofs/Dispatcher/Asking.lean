import Querent.Proofs.Dispatcher.Attachment

/-! What is run for a question. A text reaches a database only after a backend wrote it for that very
question and the guard let it pass, and it is run once, on what is attached. -/
namespace Querent
open Backend (Fence.normalized)
open Database (Handle)

def Event.isExecute : Event → Bool
  | .execute .. => true
  | _ => false

namespace Dispatcher

def Failure.precedesExecution : Failure → Bool
  | .notInitialized | .unreadable _ => true
  | .conversion (.unknownBackend _) | .conversion (.query _) | .conversion (.unsafeQuery _) => true
  | _ => false

inductive Poses (rules : Rules) (w : World) (m : Message) : AskRequest → Backend → Prop where
  | intro {r b} (request : payload AskRequest.ofJson AskRequest.check m = .ok r)
      (selected : w.backends.get? (r.backend.getD rules.defaultBackend) = some b) :
      Poses rules w m r b

inductive Allows (rules : Rules) (a : Attached) (b : Backend) (question : String) : String → Prop where
  | intro {raw} (written : b.query a.schema question = .ok raw)
      (passed : rules.conversion.guard.check (Fence.normalized raw) = .ok ()) :
      Allows rules a b question (Fence.normalized raw)

inductive Asked (d : Dispatcher) (rules : Rules) (w : World) (m : Message) :
    List Event → Except Failure String → Prop where
  | unattached (none : d.attached = none) : Asked d rules w m [] (.error .notInitialized)
  | unreadable {fault}
      (request : payload AskRequest.ofJson AskRequest.check m = .error (.unreadable fault)) :
      Asked d rules w m [] (.error (.unreadable fault))
  | unknown {r} (request : payload AskRequest.ofJson AskRequest.check m = .ok r)
      (missing : w.backends.get? (r.backend.getD rules.defaultBackend) = none) :
      Asked d rules w m []
        (.error (.conversion (.unknownBackend (r.backend.getD rules.defaultBackend))))
  | unwritten {a r b failure} (attached : d.attached = some a) (poses : Poses rules w m r b)
      (failed : b.query a.schema r.question = .error failure) :
      Asked d rules w m [.generate b.name a.schema r.question] (.error (.conversion (.query failure)))
  | refused {a r b raw refusal} (attached : d.attached = some a) (poses : Poses rules w m r b)
      (written : b.query a.schema r.question = .ok raw)
      (refused : rules.conversion.guard.check (Fence.normalized raw) = .error refusal) :
      Asked d rules w m [.generate b.name a.schema r.question]
        (.error (.conversion (.unsafeQuery refusal)))
  | failed {a r b sql failure} (attached : d.attached = some a) (poses : Poses rules w m r b)
      (allows : Allows rules a b r.question sql)
      (failed : w.fetch d.ledger a.handle sql rules.conversion.maxRows = .error failure) :
      Asked d rules w m [.generate b.name a.schema r.question,
        .execute a.handle sql rules.conversion.maxRows] (.error (.conversion (.execution failure)))
  | told {a r b sql result} (attached : d.attached = some a) (poses : Poses rules w m r b)
      (allows : Allows rules a b r.question sql)
      (fetched : w.fetch d.ledger a.handle sql rules.conversion.maxRows = .ok result) :
      Asked d rules w m [.generate b.name a.schema r.question,
        .execute a.handle sql rules.conversion.maxRows,.summarize b.name result r.question]
        (((b.summary result r.question).mapError .summary).mapError .conversion)

theorem payloadFailure {α : Type} {read : Json → Except Record.Fault α}
    {check : α → Except Message.Fault Unit} {m : Message} {failure : Failure}
    (fails : payload read check m = .error failure) : ∃ fault, failure = .unreadable fault := by
  unfold payload at fails
  split at fails
  · rename_i fault _
    exact ⟨fault,(Except.error.inj fails).symm⟩
  · split at fails
    · rename_i fault _
      exact ⟨fault,(Except.error.inj fails).symm⟩
    · contradiction

theorem asked (d : Dispatcher) (rules : Rules) (w : World) (m : Message) :
    Asked d rules w m (d.ask rules w m).1 (d.ask rules w m).2 := by
  unfold ask
  split
  · rename_i unattached
    exact .unattached unattached
  · rename_i a attached
    split
    · rename_i failure request
      obtain ⟨fault,rfl⟩ := payloadFailure request
      exact .unreadable request
    · rename_i r request
      simp only [Conversion.answer]
      split
      · rename_i missing
        exact .unknown request missing
      · rename_i b selected
        have poses : Poses rules w m r b := ⟨request,selected⟩
        simp only [Conversion.answerWith]
        split
        · rename_i failure failed
          exact .unwritten attached poses failed
        · rename_i raw written
          split
          · rename_i refusal refused
            exact .refused attached poses written refused
          · rename_i passed
            have allows : Allows rules a b r.question _ := ⟨written,passed⟩
            simp only [Conversion.execute]
            split
            · rename_i failure failed
              exact .failed attached poses allows failed
            · rename_i result fetched
              exact .told attached poses allows fetched

theorem generatesIff {d : Dispatcher} {rules : Rules} {w : World} {m : Message} {a : Attached}
    {r : AskRequest} (attached : d.attached = some a)
    (request : payload AskRequest.ofJson AskRequest.check m = .ok r) {name : String} {schema : Schema}
    {question : String} : .generate name schema question ∈ (d.ask rules w m).1 ↔
      ∃ b, w.backends.get? (r.backend.getD rules.defaultBackend) = some b ∧ name = b.name ∧
        schema = a.schema ∧ question = r.question := by
  have asked := asked d rules w m
  generalize d.ask rules w m = outcome at asked
  obtain ⟨events,answer⟩ := outcome
  cases asked with
  | unattached none =>
    rw [attached] at none
    contradiction
  | unreadable unread =>
    rw [request] at unread
    contradiction
  | unknown read missing =>
    obtain rfl := Except.ok.inj (request.symm.trans read)
    simp [missing]
  | unwritten attached' poses | refused attached' poses | failed attached' poses | told attached' poses =>
    obtain ⟨read,selected⟩ := poses
    obtain rfl := Option.some.inj (attached.symm.trans attached')
    obtain rfl := Except.ok.inj (request.symm.trans read)
    simp [selected]

/-- Why a text may be run for a frame that follows others. The frame asks a question about what was
attached last, which is open and the only database that is; the backend that was selected for the
question wrote the text, and the guard let it pass. -/
inductive Grounds (rules : Rules) (past : List (World × Frame)) (w : World) :
    Frame → Handle → String → Nat → Prop where
  | intro {m a r b sql} (kind : m.kind = Message.askKind) (latest : Latest rules past a)
      (onlyOpen : (after rules past).ledger.openNumbers = [a.handle.number])
      (poses : Poses rules w m r b) (allows : Allows rules a b r.question sql) :
      Grounds rules past w (.message m) a.handle sql rules.conversion.maxRows

inductive Telling (rules : Rules) (past : List (World × Frame)) (w : World) :
    Frame → List Event → String → ResultSet → String → Prop where
  | intro {m r b a sql n result} (poses : Poses rules w m r b) (latest : Latest rules past a)
      (grounds : Grounds rules past w (.message m) a.handle sql n)
      (fetched : w.fetch (after rules past).ledger a.handle sql n = .ok result) :
      Telling rules past w (.message m)
        [.generate b.name a.schema r.question,.execute a.handle sql n,
          .summarize b.name result r.question] b.name result r.question

structure Warranted (rules : Rules) (past : List (World × Frame)) (w : World) (f : Frame)
    (o : Outcome) : Prop where
  executed : ∀ {h sql n}, .execute h sql n ∈ o.events → Grounds rules past w f h sql n
  once : o.events.countP Event.isExecute ≤ 1
  unexecuted : ∀ {m failure}, f = .message m → m.kind = Message.askKind →
    ((after rules past).ask rules w m).2 = .error failure → failure.precedesExecution →
    o.events.countP Event.isExecute = 0
  told : ∀ {name result question}, .summarize name result question ∈ o.events →
    Telling rules past w f o.events name result question

theorem warrantedUneventful {rules : Rules} {past : List (World × Frame)} {w : World} {f : Frame}
    {o : Outcome} (none : o.events = []) : Warranted rules past w f o where
  executed member := by simp [none] at member
  once := by simp [none]
  unexecuted _ _ _ _ := by simp [none]
  told member := by simp [none] at member

theorem warrantedAsked {rules : Rules} {past : List (World × Frame)} {w : World} {m : Message}
    {state : Dispatcher} {events : List Event} {answer : Except Failure String}
    {response : Response} (kind : m.kind = Message.askKind)
    (answered : ((after rules past).ask rules w m).2 = answer)
    (asked : Asked (after rules past) rules w m events answer) :
    Warranted rules past w (.message m) ⟨state,events,response⟩ := by
  -- Sound states have no open database beside the attached one.
  have onlyOpen {a} (attached : (after rules past).attached = some a) :
      (after rules past).ledger.openNumbers = [a.handle.number] := by
    rw [(soundAfter rules past).onlyOpen,attached]
    rfl
  cases asked with
  | unattached none => exact warrantedUneventful rfl
  | unreadable request => exact warrantedUneventful rfl
  | unknown request missing => exact warrantedUneventful rfl
  | unwritten attached poses failed =>
    exact ⟨by simp,by simp [Event.isExecute],by simp [Event.isExecute],by simp⟩
  | refused attached poses written refused =>
    exact ⟨by simp,by simp [Event.isExecute],by simp [Event.isExecute],by simp⟩
  | failed attached poses allows failed =>
    have grounds := Grounds.intro kind (latestOfAttached attached) (onlyOpen attached) poses allows
    refine ⟨?_,by simp [Event.isExecute],?_,by simp⟩
    · intro h sql n member
      simp only [List.mem_cons,reduceCtorEq,Event.execute.injEq,List.not_mem_nil,or_false,
        false_or] at member
      obtain ⟨rfl,rfl,rfl⟩ := member
      exact grounds
    · rintro _ failure ⟨⟩ _ ends early
      cases answered.symm.trans ends
      contradiction
  | @told a r b sql result attached poses allows fetched =>
    have grounds := Grounds.intro kind (latestOfAttached attached) (onlyOpen attached) poses allows
    refine ⟨?_,by simp [Event.isExecute,List.countP_cons],?_,?_⟩
    · intro h sql n member
      simp only [List.mem_cons,reduceCtorEq,Event.execute.injEq,List.not_mem_nil,or_false,
        false_or] at member
      obtain ⟨rfl,rfl,rfl⟩ := member
      exact grounds
    · rintro _ failure ⟨⟩ _ ends early
      rw [answered] at ends
      cases said : b.summary result r.question with
      | ok text =>
        rw [said] at ends
        contradiction
      | error fault =>
        rw [said] at ends
        cases ends
        contradiction
    · intro name result question member
      simp only [List.mem_cons,reduceCtorEq,Event.summarize.injEq,List.not_mem_nil,or_false,
        false_or] at member
      obtain ⟨rfl,rfl,rfl⟩ := member
      exact .intro poses (latestOfAttached attached) grounds fetched

theorem warrantedDispatch (rules : Rules) (past : List (World × Frame)) (w : World) (f : Frame) :
    Warranted rules past w f ((after rules past).dispatch rules w f) := by
  cases f with
  | malformed fault => exact warrantedUneventful rfl
  | message m =>
    simp only [dispatch,handle]
    split
    · exact warrantedUneventful rfl
    · split
      · rename_i kind
        exact warrantedAsked kind rfl (asked (after rules past) rules w m)
      · exact warrantedUneventful rfl

theorem executionsWarranted {rules : Rules} {frames : List (World × Frame)} {i : Nat} {o : Outcome}
    (found : (run rules .initial frames).2[i]? = some o) :
    ∃ w f, frames[i]? = some (w,f) ∧ Warranted rules (frames.take i) w f o := by
  obtain ⟨w,f,frame,rfl⟩ := outcomeAt found
  exact ⟨w,f,frame,warrantedDispatch rules (frames.take i) w f⟩

theorem answeredFromLatest :
    ∃ rules frames o, (run rules .initial frames).2[2]? = some o ∧
      .execute ⟨1,.sqlite,"second"⟩ "SELECT 1" 5 ∈ o.events ∧
      ∃ w f, frames[2]? = some (w,f) ∧ Warranted rules (frames.take 2) w f o := by
  let b : Backend := ⟨"ollama",fun _ _ => .ok "\x60\x60\x60sql\nSELECT 1\n\x60\x60\x60",
    fun _ _ => .ok "one"⟩
  let w : World := ⟨⟨0,0⟩,Backend.Registry.empty.registerKind .ollama b,fun _ _ => .ok (),
    fun _ _ => ⟨.ok [],fun _ => .ok []⟩,fun _ _ => []⟩
  let attach (url : String) : Frame := .message ⟨Message.attachKind,
    .object [("engine",.text "sqlite"), ("db",.text "main"), ("url",.text url)],⟨0,0⟩⟩
  let ask : Frame :=
    .message ⟨Message.askKind,.object [("question",.text "How many?")],⟨0,0⟩⟩
  let rules : Rules := ⟨⟨⟨["password"]⟩,5⟩,"llama"⟩
  let frames := [(w,attach "first"), (w,attach "second"), (w,ask)]
  have found : (run rules .initial frames).2[2]? =
      some ((after rules [(w,attach "first"), (w,attach "second")]).dispatch rules w ask) := rfl
  refine ⟨rules,frames,_,found,?_,executionsWarranted found⟩
  decide +kernel

end Dispatcher
end Querent
