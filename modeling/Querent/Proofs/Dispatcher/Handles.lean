import Querent.Proofs.Dispatcher.Replacement

/-! The handles that were opened for a dispatcher, and which of them are open. A handle may be opened
for a frame that fails later on, so what was opened is followed apart from what is attached. -/
namespace Querent
open Database (Handle Ledger)

namespace Dispatcher

inductive Opens (d : Dispatcher) (w : World) : Frame → Handle → Prop where
  | intro {m r engine h l} (kind : m.kind = Message.attachKind)
      (request : payload AttachRequest.ofJson AttachRequest.check m = .ok r)
      (supported : engineOf r.engine = .ok engine)
      (opened : w.openDatabase d.ledger engine r.url = .ok (h,l)) : Opens d w (.message m) h

inductive Opened (rules : Rules) : List (World × Frame) → Handle → Prop where
  | now {past w f h} (opens : Opens (after rules past) w f h) : Opened rules (past ++ [(w,f)]) h
  | earlier {past w f h} (opened : Opened rules past h) : Opened rules (past ++ [(w,f)]) h

theorem openedSnoc {rules : Rules} {past : List (World × Frame)} {w : World} {f : Frame} {h : Handle} :
    Opened rules (past ++ [(w,f)]) h ↔ Opens (after rules past) w f h ∨ Opened rules past h := by
  constructor
  · intro opened
    generalize frames : past ++ [(w,f)] = all at opened
    cases opened with
    | now opens =>
      obtain ⟨rfl,last⟩ := List.append_inj' frames rfl
      cases last
      exact .inl opens
    | earlier opened =>
      obtain ⟨rfl,last⟩ := List.append_inj' frames rfl
      exact .inr opened
  · rintro (opens | opened)
    · exact .now opens
    · exact .earlier opened

theorem openedNone {rules : Rules} {h : Handle} : ¬Opened rules [] h := by
  intro opened
  generalize frames : [] = all at opened
  cases opened <;> simp at frames

theorem opensOfAttaches {d : Dispatcher} {w : World} {f : Frame} {a : Attached} {l : Ledger}
    (attaches : Attaches d w f a l) : Opens d w f a.handle := by
  obtain ⟨kind,request,supported,opened,_⟩ := attaches
  exact .intro kind request supported opened

theorem openedClose (l : Ledger) (h : Handle) : (l.close h).opened = l.opened := by
  unfold Ledger.close
  split <;> rfl

theorem openedReplace (d : Dispatcher) (a : Attached) (l : Ledger) :
    (d.replace a l).ledger.opened = l.opened := by
  unfold replace
  split
  · exact openedClose ..
  · rfl

theorem opensUnique {d : Dispatcher} {w : World} {f : Frame} {h h' : Handle}
    (first : Opens d w f h) (second : Opens d w f h') : h = h' := by
  obtain ⟨_,request,supported,opened⟩ := first
  obtain ⟨_,request',supported',opened'⟩ := second
  cases request.symm.trans request'
  cases supported.symm.trans supported'
  cases opened.symm.trans opened'
  rfl

theorem opensNumber {d : Dispatcher} {w : World} {f : Frame} {h : Handle} (opens : Opens d w f h)
    (rules : Rules) : h.number = d.ledger.opened ∧
      (d.dispatch rules w f).state.ledger.opened = d.ledger.opened + 1 := by
  obtain @⟨m,r,engine,h,l,kind,request,supported,opened⟩ := opens
  obtain ⟨number,next⟩ := World.openedNumber opened
  refine ⟨number,?_⟩
  simp only [dispatch,handle,kind,if_true,attach,request,supported,openFor,opened]
  split
  · exact (openedClose ..).trans next
  · exact (openedReplace ..).trans next

theorem openedNeverFalls (d : Dispatcher) (rules : Rules) (w : World) (f : Frame) :
    d.ledger.opened ≤ (d.dispatch rules w f).state.ledger.opened := by
  have effect := dispatchEffect d rules w f
  generalize (d.dispatch rules w f).state = next at effect ⊢
  generalize (d.dispatch rules w f).attaches = success at effect
  cases effect with
  | attached attaches replaced =>
    obtain ⟨_,_,_,opened,_⟩ := attaches
    rw [replaced,openedReplace,(World.openedNumber opened).2]
    exact Nat.le_succ _
  | unread opened =>
    show _ ≤ (Ledger.close _ _).opened
    rw [openedClose,(World.openedNumber opened).2]
    exact Nat.le_succ _
  | unchanged => exact Nat.le_refl _

structure Numbered (rules : Rules) (past : List (World × Frame)) : Prop where
  below : ∀ {h}, Opened rules past h → h.number < (after rules past).ledger.opened
  distinct : ∀ {h h'}, Opened rules past h → Opened rules past h' → h.number = h'.number → h = h'
  attached : ∀ {a}, (after rules past).attached = some a → Opened rules past a.handle

theorem numberedSnoc {rules : Rules} {past : List (World × Frame)} (before : Numbered rules past)
    (w : World) (f : Frame) : Numbered rules (past ++ [(w,f)]) := by
  have fresh : ∀ {h h'}, Opens (after rules past) w f h → Opened rules past h' →
      h'.number < h.number := by
    intro h h' opens opened
    rw [(opensNumber opens rules).1]
    exact before.below opened
  refine ⟨?_,?_,?_⟩
  · intro h opened
    rw [afterSnoc]
    rcases openedSnoc.mp opened with opens | earlier
    · obtain ⟨number,next⟩ := opensNumber opens rules
      omega
    · exact Nat.lt_of_lt_of_le (before.below earlier) (openedNeverFalls ..)
  · intro h h' opened opened' same
    rcases openedSnoc.mp opened with opens | earlier <;>
      rcases openedSnoc.mp opened' with opens' | earlier'
    · exact opensUnique opens opens'
    · exact absurd same (Nat.ne_of_gt (fresh opens earlier'))
    · exact absurd same (Nat.ne_of_lt (fresh opens' earlier))
    · exact before.distinct earlier earlier' same
  · intro a attached
    rw [afterSnoc] at attached
    cases success : ((after rules past).dispatch rules w f).attaches with
    | true =>
      obtain ⟨a',l,attaches⟩ := successIff.mp success
      rw [attachesReplace attaches,replaceAttached] at attached
      cases attached
      exact .now (opensOfAttaches attaches)
    | false =>
      rw [(keptUnless (soundAfter rules past) success).1] at attached
      exact .earlier (before.attached attached)

theorem numberedAfter (rules : Rules) (past : List (World × Frame)) : Numbered rules past := by
  induction past using List.reverseRecOn with
  | nil =>
    refine ⟨?_,?_,?_⟩
    · intro h opened
      exact absurd opened openedNone
    · intro h h' opened
      exact absurd opened openedNone
    · intro a attached
      cases attached
  | append_singleton past last ih => exact numberedSnoc ih last.1 last.2

structure Accounted (d : Dispatcher) (opened : Handle → Prop) : Prop where
  onlyAttached : ∀ {h}, opened h → (d.ledger.isClosed h = false ↔ ∃ a, d.attached = some a ∧ a.handle = h)
  attached : ∀ {a}, d.attached = some a → opened a.handle ∧ d.ledger.isClosed a.handle = false

theorem openIffNumber {l : Ledger} {h : Handle} (given : h.number < l.opened) :
    l.isClosed h = false ↔ h.number ∈ l.openNumbers := by
  simp [Ledger.isClosed,Ledger.openNumbers,given]

theorem accountedAfter (rules : Rules) (frames : List (World × Frame)) :
    Accounted (after rules frames) (Opened rules frames) := by
  have numbered := numberedAfter rules frames
  have sound := soundAfter rules frames
  have onlyAttached : ∀ {h}, Opened rules frames h →
      ((after rules frames).ledger.isClosed h = false ↔
        ∃ a, (after rules frames).attached = some a ∧ a.handle = h) := by
    intro h opened
    rw [openIffNumber (numbered.below opened),sound.onlyOpen]
    simp only [List.mem_map,Option.mem_toList]
    constructor
    · rintro ⟨a,attached,same⟩
      exact ⟨a,attached,numbered.distinct (numbered.attached attached) opened same⟩
    · rintro ⟨a,attached,rfl⟩
      exact ⟨a,attached,rfl⟩
  refine ⟨onlyAttached,?_⟩
  intro a attached
  have opened := numbered.attached attached
  exact ⟨opened,(onlyAttached opened).mpr ⟨a,attached,rfl⟩⟩

theorem shutdownOpenNumbers {d : Dispatcher} (sound : Sound d) : d.shutdown.ledger.openNumbers = [] := by
  unfold shutdown
  have only := sound.onlyOpen
  cases attached : d.attached with
  | none => simpa [attached] using only
  | some a =>
    rw [attached] at only
    rw [Ledger.openNumbersClose,only]
    simp

theorem shutdownOpened (d : Dispatcher) : d.shutdown.ledger.opened = d.ledger.opened := by
  unfold shutdown
  split
  · exact openedClose ..
  · rfl

theorem shutdownAttached (d : Dispatcher) : d.shutdown.attached = none := by
  unfold shutdown
  split
  · rfl
  · assumption

theorem closedByShutdown {rules : Rules} {frames : List (World × Frame)} {h : Handle}
    (opened : Opened rules frames h) : (after rules frames).shutdown.ledger.isClosed h = true := by
  have given := (numberedAfter rules frames).below opened
  rw [← shutdownOpened] at given
  cases closed : (after rules frames).shutdown.ledger.isClosed h with
  | true => rfl
  | false =>
    have member := (openIffNumber given).mp closed
    rw [shutdownOpenNumbers (soundAfter rules frames)] at member
    cases member

end Dispatcher
end Querent
