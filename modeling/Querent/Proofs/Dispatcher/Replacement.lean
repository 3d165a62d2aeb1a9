import Querent.Proofs.Dispatcher.Attachment

/-! What a history of frames leaves attached. A frame either puts a new attachment in place of the one
before, handle, name and schema together, or leaves everything as it was; which of the two it was can
be read off the answer. So what is attached comes from the latest message that was answered as a
success. -/
namespace Querent
open Database (Handle Ledger)

namespace Dispatcher

/-- Where an attachment comes from: the message, what it asks for, and the ledger when its handle was
open. The schema is what the catalog of the engine that the message names said about that very
handle. -/
structure Origin (d : Dispatcher) (w : World) (m : Message) (r : AttachRequest) (l : Ledger)
    (a : Attached) : Prop where
  kind : m.kind = Message.attachKind
  request : payload AttachRequest.ofJson AttachRequest.check m = .ok r
  engine : engineOf r.engine = .ok a.handle.engine
  opened : w.openDatabase d.ledger a.handle.engine r.url = .ok (a.handle,l)
  name : a.name = r.database
  schema : w.schema l a.handle.engine a.handle r.database = .ok a.schema

theorem originOfAttaches {d : Dispatcher} {w : World} {f : Frame} {a : Attached} {l : Ledger}
    (attaches : Attaches d w f a l) : ∃ m r, f = .message m ∧ Origin d w m r l a := by
  obtain @⟨m,r,engine,h,_,schema,kind,request,supported,opened,read⟩ := attaches
  have same : h.engine = engine := World.openedEngine opened
  subst same
  exact ⟨m,r,rfl,kind,request,supported,opened,rfl,read⟩

theorem attachesOfOrigin {d : Dispatcher} {w : World} {m : Message} {r : AttachRequest} {l : Ledger}
    {a : Attached} (origin : Origin d w m r l a) : Attaches d w (.message m) a l := by
  obtain ⟨handle,name,schema⟩ := a
  obtain ⟨kind,request,engine,opened,rfl,read⟩ := origin
  exact .intro kind request engine opened read

theorem attachesSuccess {d : Dispatcher} {w : World} {f : Frame} {a : Attached} {l : Ledger}
    (attaches : Attaches d w f a l) (rules : Rules) : (d.dispatch rules w f).attaches = true := by
  obtain ⟨kind,request,supported,opened,read⟩ := attaches
  simp only [dispatch,handle,kind,if_true,attach,request,supported,openFor,opened,read]
  rfl

theorem successIff {d : Dispatcher} {rules : Rules} {w : World} {f : Frame} :
    (d.dispatch rules w f).attaches = true ↔ ∃ a l, Attaches d w f a l := by
  constructor
  · intro success
    have effect := dispatchEffect d rules w f
    rw [success] at effect
    generalize (d.dispatch rules w f).state = next at effect
    cases effect with
    | @attached a l _ attaches replaced => exact ⟨a,l,attaches⟩
  · rintro ⟨a,l,attaches⟩
    exact attachesSuccess attaches rules

theorem newAttachment {d : Dispatcher} (sound : Sound d) {w : World} {f : Frame} {a : Attached}
    {l : Ledger} (attaches : Attaches d w f a l) : d.attached ≠ some a := by
  obtain ⟨m,r,frame,origin⟩ := originOfAttaches attaches
  obtain ⟨_,_,older⟩ := openNumbersOpened sound origin.opened
  intro before
  have member : a.handle.number ∈ d.attached.toList.map (·.handle.number) := by simp [before]
  exact Nat.lt_irrefl _ (older _ member)

theorem keptUnless {d : Dispatcher} (sound : Sound d) {rules : Rules} {w : World} {f : Frame}
    (other : (d.dispatch rules w f).attaches = false) :
    (d.dispatch rules w f).state.attached = d.attached ∧
      (d.dispatch rules w f).state.ledger.openNumbers = d.ledger.openNumbers := by
  have same : (d.dispatch rules w f).state.attached = d.attached := by
    have effect := dispatchEffect d rules w f
    rw [other] at effect
    generalize (d.dispatch rules w f).state = next at effect ⊢
    cases effect with
    | unread opened => rfl
    | unchanged => rfl
  refine ⟨same,?_⟩
  rw [(soundDispatch sound rules w f).onlyOpen,same,sound.onlyOpen]

structure Handled (d : Dispatcher) (w : World) (f : Frame) (o : Outcome) : Prop where
  kind : o.response.kind = f.responseKind
  success : o.attaches = true ↔ ∃ m r l a, f = .message m ∧ Origin d w m r l a
  attached : ∀ {m r l a}, f = .message m → Origin d w m r l a → o.state.attached = some a
  replaced : o.attaches = true ↔ o.state.attached ≠ d.attached
  kept : o.attaches = false →
    o.state.attached = d.attached ∧ o.state.ledger.openNumbers = d.ledger.openNumbers

theorem handledDispatch {d : Dispatcher} (sound : Sound d) (rules : Rules) (w : World) (f : Frame) :
    Handled d w f (d.dispatch rules w f) := by
  have success : (d.dispatch rules w f).attaches = true ↔
      ∃ m r l a, f = .message m ∧ Origin d w m r l a := by
    rw [successIff]
    constructor
    · rintro ⟨a,l,attaches⟩
      obtain ⟨m,r,frame,origin⟩ := originOfAttaches attaches
      exact ⟨m,r,l,a,frame,origin⟩
    · rintro ⟨m,r,l,a,rfl,origin⟩
      exact ⟨a,l,attachesOfOrigin origin⟩
  have attached : ∀ {m r l a}, f = .message m → Origin d w m r l a →
      (d.dispatch rules w f).state.attached = some a := by
    rintro m r l a rfl origin
    rw [attachesReplace (attachesOfOrigin origin),replaceAttached]
  refine ⟨dispatchKind d rules w f,success,attached,?_,keptUnless sound⟩
  constructor
  · intro attaches
    obtain ⟨m,r,l,a,frame,origin⟩ := success.mp attaches
    rw [attached frame origin]
    subst frame
    exact (newAttachment sound (attachesOfOrigin origin)).symm
  · intro changed
    cases attaches : (d.dispatch rules w f).attaches with
    | true => rfl
    | false => exact absurd (keptUnless sound attaches).1 changed

theorem readyIffSuccess (rules : Rules) (frames : List (World × Frame)) :
    (after rules frames).isReady = true ↔
      ∃ o ∈ (run rules .initial frames).2, o.attaches = true := by
  induction frames using List.reverseRecOn with
  | nil => simp [run,isReady,initial]
  | append_singleton past last ih =>
    obtain ⟨w,f⟩ := last
    have handled := handledDispatch (soundAfter rules past) rules w f
    rw [afterSnoc,outcomesSnoc]
    simp only [List.mem_append,List.mem_singleton,or_and_right,exists_or,exists_eq_left,← ih]
    cases attaches : ((after rules past).dispatch rules w f).attaches with
    | true =>
      obtain ⟨m,r,l,a,frame,origin⟩ := handled.success.mp attaches
      simp [isReady,handled.attached frame origin]
    | false => simp [isReady,(handled.kept attaches).1]

theorem latestSplit {rules : Rules} {frames : List (World × Frame)} {a : Attached}
    (latest : Latest rules frames a) :
    ∃ past w f later l, frames = past ++ (w,f) :: later ∧ Attaches (after rules past) w f a l ∧
      ∀ o ∈ (run rules .initial frames).2.drop (past.length + 1), o.attaches = false := by
  induction latest with
  | @now past w f a l attaches =>
    refine ⟨past,w,f,[],l,rfl,attaches,?_⟩
    have all : (run rules .initial (past ++ [(w,f)])).2.length = past.length + 1 := by
      simp [outcomesLength]
    simp [List.drop_of_length_le (Nat.le_of_eq all)]
  | @earlier before w f a _ other ih =>
    obtain ⟨past,v,g,later,l,split,attaches,none⟩ := ih
    refine ⟨past,v,g,later ++ [(w,f)],l,by simp [split],attaches,?_⟩
    have within : past.length + 1 ≤ (run rules .initial before).2.length := by
      simp [outcomesLength,split]
    rw [outcomesSnoc,List.drop_append_of_le_length within]
    intro o member
    rcases List.mem_append.mp member with earlier | last
    · exact none o earlier
    · rw [List.mem_singleton.mp last]
      exact other

theorem answeredKinds (rules : Rules) (frames : List (World × Frame)) :
    (responses rules frames).map (·.kind) = frames.map (·.2.responseKind) := by
  induction frames using List.reverseRecOn with
  | nil => rfl
  | append_singleton past last ih =>
    obtain ⟨w,f⟩ := last
    rw [responsesSnoc,List.map_append,List.map_append,ih]
    simp only [List.map_cons,List.map_nil,dispatchKind]

theorem handledAt {rules : Rules} {frames : List (World × Frame)} {i : Nat} {w : World} {f : Frame}
    (frame : frames[i]? = some (w,f)) :
    ∃ o, (run rules .initial frames).2[i]? = some o ∧ Handled (after rules (frames.take i)) w f o := by
  have within : i < (run rules .initial frames).2.length := by
    rw [outcomesLength]
    exact (List.getElem?_eq_some_iff.mp frame).1
  have found := List.getElem?_eq_getElem within
  obtain ⟨v,g,same,outcome⟩ := outcomeAt found
  cases frame.symm.trans same
  refine ⟨_,found,?_⟩
  rw [outcome]
  exact handledDispatch (soundAfter rules (frames.take i)) rules w f

structure Standing (rules : Rules) (frames : List (World × Frame)) : Prop where
  ready : (after rules frames).isReady = true ↔
    ∃ o ∈ (run rules .initial frames).2, o.attaches = true
  latest : ∀ {a}, (after rules frames).attached = some a →
    ∃ past w m later r l, frames = past ++ (w,.message m) :: later ∧
      Origin (after rules past) w m r l a ∧
      ∀ o ∈ (run rules .initial frames).2.drop (past.length + 1), o.attaches = false
  answered : (responses rules frames).map (·.kind) = frames.map (·.2.responseKind)
  handled : ∀ {i w f}, frames[i]? = some (w,f) →
    ∃ o, (run rules .initial frames).2[i]? = some o ∧ Handled (after rules (frames.take i)) w f o

theorem attachedByLatestSuccess (rules : Rules) (frames : List (World × Frame)) :
    Standing rules frames := by
  refine ⟨readyIffSuccess rules frames,?_,answeredKinds rules frames,handledAt⟩
  intro a attached
  obtain ⟨past,w,f,later,l,split,attaches,none⟩ := latestSplit (latestOfAttached attached)
  obtain ⟨m,r,rfl,origin⟩ := originOfAttaches attaches
  exact ⟨past,w,m,later,r,l,split,origin,none⟩

end Dispatcher
end Querent
