import Querent.Session.Step

/-! What a step of a session can do. A step that can be taken is one of a few moves, each with all that
had to hold before it; whatever is proved of every move holds of every step, in any order of the tasks. -/
namespace Querent.Session

theorem tearFlags (r : Registry) (s : Session) (t : Teardown) :
    ∃ alive signalled next, tear r s t = ((tear r s t).1,{ s with alive, signalled },next) := by
  cases t with
  | claim =>
    simp only [tear]
    split
    · exact ⟨false,s.signalled,some .signal,rfl⟩
    · exact ⟨s.alive,s.signalled,none,rfl⟩
  | signal => exact ⟨s.alive,true,some .leave,rfl⟩
  | leave => exact ⟨s.alive,s.signalled,none,rfl⟩

theorem tearSignalled {r r' : Registry} {s s' : Session} {t : Teardown} {next}
    (torn : tear r s t = (r',s',next)) (given : s.signalled = true) : s'.signalled = true := by
  cases t with
  | claim =>
    simp only [tear] at torn
    split at torn <;> cases torn <;> exact given
  | signal => cases torn; rfl
  | leave => cases torn; exact given

inductive Move (rules : Dispatcher.Rules) (r : Registry) (s : Session) :
    Action → Registry → Session → Prop where
  | receive {deadline at_ e} (reading : s.reader = .reading deadline) :
      Move rules r s (.receive at_ e) r (s.receive at_ e)
  | readerStops {deadline} (reading : s.reader = .reading deadline) (given : s.signalled = true) :
      Move rules r s .readerStops r { s with reader := .finished }
  | readerExpires {deadline} (reading : s.reader = .reading deadline) (late : deadline ≤ s.now) :
      Move rules r s .readerExpires r { s with reader := .ending .claim }
  | readerEnds {t r' alive signalled next} (ending : s.reader = .ending t)
      (torn : tear r s t = (r',{ s with alive, signalled },next)) :
      Move rules r s .readerEnds r'
        { s with alive, signalled, reader := (next.map .ending).getD .finished }
  | take {f rest} (idle : s.dispatching = .idle) (waiting : s.inbound = f :: rest)
      (quiet : s.signalled = false) :
      Move rules r s .take r { s with dispatching := .handling f, inbound := rest }
  | answer {w f} (handling : s.dispatching = .handling f) :
      Move rules r s (.answer w) r { s with
        dispatching := .holding (s.dispatcher.dispatch rules w f).response
        dispatcher := (s.dispatcher.dispatch rules w f).state
        events := s.events ++ (s.dispatcher.dispatch rules w f).events }
  | push {response} (holding : s.dispatching = .holding response) (quiet : s.signalled = false)
      (writing : s.writer ≠ .finished) (room : s.outbound.length < s.limits.outbound) :
      Move rules r s .push r { s with dispatching := .idle, outbound := s.outbound ++ [response] }
  | abandon {response} (holding : s.dispatching = .holding response)
      (lost : s.signalled = true ∨ s.writer = .finished) :
      Move rules r s .dispatcherStops r { s with dispatching := .closing }
  | dispatcherStops (idle : s.dispatching = .idle)
      (done : s.signalled = true ∨ s.inbound = [] ∧ s.reader = .finished) :
      Move rules r s .dispatcherStops r { s with dispatching := .closing }
  | release (closing : s.dispatching = .closing) :
      Move rules r s .release r
        { s with dispatching := .ending .claim, dispatcher := s.dispatcher.shutdown }
  | dispatcherEnds {t r' alive signalled next} (ending : s.dispatching = .ending t)
      (torn : tear r s t = (r',{ s with alive, signalled },next)) :
      Move rules r s .dispatcherEnds r'
        { s with alive, signalled, dispatching := (next.map .ending).getD .finished }
  | write {tick response rest} (waiting : s.writer = .waiting tick)
      (queued : s.outbound = response :: rest) :
      Move rules r s .write r { s with
        handed := s.handed ++ [.response response], writer := .sending tick, outbound := rest }
  | ping {tick} (waiting : s.writer = .waiting tick) (due : tick ≤ s.now) :
      Move rules r s .ping r
        { s with handed := s.handed ++ [.ping], writer := .sending (s.nextTick tick) }
  | sent {tick} (sending : s.writer = .sending tick) :
      Move rules r s .sent r { s with writer := .waiting tick }
  | sendFails {tick} (sending : s.writer = .sending tick) :
      Move rules r s .sendFails r { s with writer := .ending .claim }
  | part {tick} (waiting : s.writer = .waiting tick) (given : s.signalled = true) :
      Move rules r s .part r
        { s with handed := s.handed ++ [.close], writer := .parting (s.now + partingTime) }
  | parted {until_} (parting : s.writer = .parting until_) :
      Move rules r s .parted r { s with writer := .finished }
  | writerStops {tick} (waiting : s.writer = .waiting tick) (empty : s.outbound = [])
      (noReader : s.reader = .finished) (noDispatcher : s.dispatching = .finished) :
      Move rules r s .writerStops r { s with writer := .ending .claim }
  | writerEnds {t r' alive signalled next} (ending : s.writer = .ending t)
      (torn : tear r s t = (r',{ s with alive, signalled },next)) :
      Move rules r s .writerEnds r'
        { s with alive, signalled, writer := (next.map .ending).getD .finished }
  | call : Move rules r s .call r { s with calls := s.calls ++ [.claim] }
  | callEnds {index t r' alive signalled next} (calling : s.calls[index]? = some t)
      (torn : tear r s t = (r',{ s with alive, signalled },next)) :
      Move rules r s (.callEnds index) r' { s with
        alive, signalled
        calls := next.elim (s.calls.eraseIdx index) (s.calls.set index) }
  | pass {ms} : Move rules r s (.pass ms) r { s with now := s.now + ms }

structure Taken where
  action : Action
  before : Registry × Session
  after : Registry × Session

theorem moveOfStep {rules : Dispatcher.Rules} {r r' : Registry} {s s' : Session} {a : Action}
    (taken : step rules r s a = some (r',s')) : Move rules r s a r' s' := by
  cases a with
  | receive at_ e =>
    simp only [step] at taken
    split at taken <;> cases taken
    exact .receive (by assumption)
  | readerStops =>
    simp only [step] at taken
    split at taken <;> try contradiction
    split at taken <;> cases taken
    exact .readerStops (by assumption) (by assumption)
  | readerExpires =>
    simp only [step] at taken
    split at taken <;> try contradiction
    split at taken <;> cases taken
    exact .readerExpires (by assumption) (by assumption)
  | readerEnds =>
    simp only [step] at taken
    split at taken <;> try contradiction
    rename_i t ending
    obtain ⟨alive,signalled,next,torn⟩ := tearFlags r s t
    rw [torn] at taken
    cases taken
    exact .readerEnds ending torn
  | take =>
    simp only [step] at taken
    split at taken <;> try contradiction
    split at taken <;> cases taken
    exact .take (by assumption) (by assumption) (by simp_all)
  | answer w =>
    simp only [step] at taken
    split at taken <;> cases taken
    exact .answer (by assumption)
  | push =>
    simp only [step] at taken
    split at taken <;> try contradiction
    split at taken <;> cases taken
    rename_i holding allowed
    simp only [Bool.or_eq_true,beq_iff_eq,decide_eq_true_eq,not_or,Bool.not_eq_true,
      Nat.not_le] at allowed
    exact .push holding allowed.1.1 allowed.1.2 allowed.2
  | dispatcherStops =>
    simp only [step] at taken
    split at taken <;> cases taken
    rename_i stops
    simp only [dispatcherMayStop] at stops
    split at stops
    · simp only [Bool.or_eq_true,Bool.and_eq_true,List.isEmpty_iff,beq_iff_eq] at stops
      exact .dispatcherStops (by assumption) stops
    · simp only [Bool.or_eq_true,beq_iff_eq] at stops
      exact .abandon (by assumption) stops
    · contradiction
  | release =>
    simp only [step] at taken
    split at taken <;> cases taken
    exact .release (by assumption)
  | dispatcherEnds =>
    simp only [step] at taken
    split at taken <;> try contradiction
    rename_i t ending
    obtain ⟨alive,signalled,next,torn⟩ := tearFlags r s t
    rw [torn] at taken
    cases taken
    exact .dispatcherEnds ending torn
  | write =>
    simp only [step] at taken
    split at taken <;> cases taken
    exact .write (by assumption) (by assumption)
  | ping =>
    simp only [step] at taken
    split at taken <;> try contradiction
    split at taken <;> cases taken
    exact .ping (by assumption) (by assumption)
  | sent =>
    simp only [step] at taken
    split at taken <;> cases taken
    exact .sent (by assumption)
  | sendFails =>
    simp only [step] at taken
    split at taken <;> cases taken
    exact .sendFails (by assumption)
  | part =>
    simp only [step] at taken
    split at taken <;> try contradiction
    split at taken <;> cases taken
    exact .part (by assumption) (by assumption)
  | parted =>
    simp only [step] at taken
    split at taken <;> cases taken
    exact .parted (by assumption)
  | writerStops =>
    simp only [step] at taken
    split at taken <;> try contradiction
    split at taken <;> cases taken
    rename_i waiting done
    simp only [Bool.and_eq_true,List.isEmpty_iff,beq_iff_eq] at done
    exact .writerStops waiting done.1.1 done.1.2 done.2
  | writerEnds =>
    simp only [step] at taken
    split at taken <;> try contradiction
    rename_i t ending
    obtain ⟨alive,signalled,next,torn⟩ := tearFlags r s t
    rw [torn] at taken
    cases taken
    exact .writerEnds ending torn
  | call => cases taken; exact .call
  | callEnds index =>
    simp only [step] at taken
    split at taken <;> try contradiction
    rename_i t calling
    obtain ⟨alive,signalled,next,torn⟩ := tearFlags r s t
    rw [torn] at taken
    cases taken
    cases next <;> exact .callEnds calling torn
  | pass ms => cases taken; exact .pass

end Querent.Session
