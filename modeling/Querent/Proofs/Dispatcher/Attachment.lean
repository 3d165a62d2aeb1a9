import Mathlib.Data.List.Induction
import Querent.Proofs.Dispatcher.Run

/-! What is attached. What a frame does to the state of a dispatcher depends on its attachment alone: a
successful one puts a new handle in place of the one before, and nothing else changes what is attached.
Of all handles ever opened, the attached one is the only one that is open. -/
namespace Querent
open Database (Handle Ledger)

namespace Database.Ledger

def Bounded (l : Ledger) : Prop := ∀ n ∈ l.closed, n < l.opened

theorem openNumbersOpen {l : Ledger} (bounded : l.Bounded) (engine : Engine) (url : String) :
    (l.openHandle engine url).2.openNumbers = l.openNumbers ++ [l.opened] := by
  have fresh : l.opened ∉ l.closed := fun member => Nat.lt_irrefl _ (bounded _ member)
  simp [openHandle,openNumbers,List.range_succ,List.filter_append,fresh]

theorem boundedOpen {l : Ledger} (bounded : l.Bounded) (engine : Engine) (url : String) :
    (l.openHandle engine url).2.Bounded :=
  fun n member => Nat.lt_succ_of_lt (bounded n member)

theorem openNumbersClose (l : Ledger) (h : Handle) :
    (l.close h).openNumbers = l.openNumbers.filter (· ≠ h.number) := by
  unfold close
  split
  · rename_i closed
    refine (List.filter_eq_self.mpr ?_).symm
    intro n member
    have still := (List.mem_filter.mp member).2
    rw [decide_eq_true_eq]
    rintro rfl
    rw [show l.closed.contains h.number = true from closed] at still
    contradiction
  · simp only [openNumbers,List.filter_filter]
    refine List.filter_congr ?_
    intro n _
    by_cases same : n = h.number <;> simp [same]

theorem boundedClose {l : Ledger} {h : Handle} (bounded : l.Bounded) (given : h.number < l.opened) :
    (l.close h).Bounded := by
  unfold close
  split
  · exact bounded
  · intro n member
    rcases List.mem_cons.mp member with rfl | earlier
    · exact given
    · exact bounded n earlier

theorem openBelow {l : Ledger} {n : Nat} (member : n ∈ l.openNumbers) : n < l.opened :=
  List.mem_range.mp (List.mem_filter.mp member).1

end Database.Ledger

namespace World
variable {w : World} {l l' : Ledger} {engine : Engine} {url : String} {h : Handle}

theorem openedHandle (opened : w.openDatabase l engine url = .ok (h,l')) :
    l.openHandle engine url = (h,l') := by
  unfold openDatabase at opened
  split at opened
  · exact Except.ok.inj opened
  · contradiction

theorem openedNumber (opened : w.openDatabase l engine url = .ok (h,l')) :
    h.number = l.opened ∧ l'.opened = l.opened + 1 := by
  cases openedHandle opened
  exact ⟨rfl,rfl⟩

theorem openedEngine (opened : w.openDatabase l engine url = .ok (h,l')) : h.engine = engine := by
  cases openedHandle opened
  rfl

end World

namespace Dispatcher

inductive Attaches (d : Dispatcher) (w : World) : Frame → Attached → Ledger → Prop where
  | intro {m r engine h l schema} (kind : m.kind = Message.attachKind)
      (request : payload AttachRequest.ofJson AttachRequest.check m = .ok r)
      (supported : engineOf r.engine = .ok engine)
      (opened : w.openDatabase d.ledger engine r.url = .ok (h,l))
      (read : w.schema l engine h r.database = .ok schema) :
      Attaches d w (.message m) ⟨h,r.database,schema⟩ l

inductive Effect (d : Dispatcher) (w : World) (f : Frame) : Dispatcher → (success : Bool) → Prop where
  | attached {a l next} (attaches : Attaches d w f a l) (replaced : next = d.replace a l) :
    Effect d w f next true
  | unread {engine url h l} (opened : w.openDatabase d.ledger engine url = .ok (h,l)) :
    Effect d w f { d with ledger := l.close h } false
  | unchanged : Effect d w f d false

theorem attachEffect (d : Dispatcher) (w : World) {m : Message}
    (kind : m.kind = Message.attachKind) :
    Effect d w (.message m) (d.attach w m).1 (d.attach w m).2.isOk := by
  unfold attach
  split
  · exact .unchanged
  · rename_i r request
    split
    · exact .unchanged
    · rename_i engine supported
      unfold openFor
      split
      · exact .unchanged
      · rename_i h l opened
        split
        · exact .unread opened
        · rename_i schema read
          exact .attached (.intro kind request supported opened read) rfl

def Outcome.attaches (o : Outcome) : Bool :=
  o.response.kind = Response.attachKind && o.response.isSuccess

theorem respondSuccess (w : World) (kind : String) (answer : Except Failure String) :
    (respond w kind answer).isSuccess = answer.isOk := by
  cases answer <;> rfl

theorem dispatchEffect (d : Dispatcher) (rules : Rules) (w : World) (f : Frame) :
    Effect d w f (d.dispatch rules w f).state (d.dispatch rules w f).attaches := by
  cases f with
  | malformed fault => exact .unchanged
  | message m =>
    simp only [dispatch,handle,Outcome.attaches]
    split
    · rename_i kind
      simpa [respondKind,respondSuccess] using attachEffect d w kind
    · split
      · have other : decide (Response.askKind = Response.attachKind) = false := by decide
        rw [respondKind,other]
        exact .unchanged
      · exact .unchanged

inductive Latest (rules : Rules) : List (World × Frame) → Attached → Prop where
  | now {past w f a l} (attaches : Attaches (after rules past) w f a l) :
      Latest rules (past ++ [(w,f)]) a
  | earlier {past w f a} (latest : Latest rules past a)
      (other : ((after rules past).dispatch rules w f).attaches = false) :
      Latest rules (past ++ [(w,f)]) a

theorem replaceAttached (d : Dispatcher) (a : Attached) (l : Ledger) :
    (d.replace a l).attached = some a := by
  unfold replace
  split <;> rfl

theorem latestOfAttached {rules : Rules} {past : List (World × Frame)} {a : Attached}
    (attached : (after rules past).attached = some a) : Latest rules past a := by
  induction past using List.reverseRecOn with
  | nil => simp [initial] at attached
  | append_singleton past last ih =>
    obtain ⟨w,f⟩ := last
    rw [afterSnoc] at attached
    have effect := dispatchEffect (after rules past) rules w f
    generalize before : (after rules past).dispatch rules w f = o at attached effect
    obtain ⟨state,events,response⟩ := o
    generalize success : Outcome.attaches ⟨state,events,response⟩ = flag at effect
    cases effect with
    | attached attaches replaced =>
      have now : state.attached = some _ := replaced ▸ replaceAttached ..
      obtain rfl : _ = a := Option.some.inj (now.symm.trans attached)
      exact .now attaches
    | unread opened => exact .earlier (ih attached) (by rw [before,success])
    | unchanged => exact .earlier (ih attached) (by rw [before,success])

theorem attachesReplace {d : Dispatcher} {w : World} {f : Frame} {a : Attached} {l : Ledger}
    (attaches : Attaches d w f a l) (rules : Rules) :
    (d.dispatch rules w f).state = d.replace a l := by
  obtain ⟨kind,request,supported,opened,read⟩ := attaches
  simp only [dispatch,handle,kind,if_true,attach,request,supported,openFor,opened,read]

structure Sound (d : Dispatcher) : Prop where
  bounded : d.ledger.Bounded
  onlyOpen : d.ledger.openNumbers = d.attached.toList.map (·.handle.number)

theorem soundInitial : Sound initial := ⟨by simp [initial,Ledger.empty,Ledger.Bounded],rfl⟩

theorem openNumbersOpened {d : Dispatcher} (sound : Sound d) {w : World} {engine : Engine}
    {url : String} {h : Handle} {l : Ledger}
    (opened : w.openDatabase d.ledger engine url = .ok (h,l)) :
    l.Bounded ∧ l.openNumbers = d.attached.toList.map (·.handle.number) ++ [h.number] ∧
      ∀ n ∈ d.attached.toList.map (·.handle.number), n < h.number := by
  have same := World.openedHandle opened
  have ledger : l = (d.ledger.openHandle engine url).2 := by rw [same]
  have number := (World.openedNumber opened).1
  refine ⟨?_,?_,?_⟩
  · rw [ledger]
    exact Ledger.boundedOpen sound.bounded engine url
  · rw [ledger,number,Ledger.openNumbersOpen sound.bounded,sound.onlyOpen]
  · intro n member
    rw [number]
    exact Ledger.openBelow (sound.onlyOpen ▸ member)

theorem soundReplace {d : Dispatcher} (sound : Sound d) {w : World} {engine : Engine}
    {url : String} {l : Ledger} {a : Attached}
    (opened : w.openDatabase d.ledger engine url = .ok (a.handle,l)) : Sound (d.replace a l) := by
  obtain ⟨bounded,numbers,older⟩ := openNumbersOpened sound opened
  unfold replace
  cases before : d.attached with
  | none => exact ⟨bounded,by simpa [before] using numbers⟩
  | some previous =>
    simp only [before,Option.toList_some,List.map_cons,List.map_nil,List.mem_singleton,
      forall_eq] at numbers older
    have given : previous.handle.number ∈ l.openNumbers := by simp [numbers]
    refine ⟨Ledger.boundedClose bounded (Ledger.openBelow given),?_⟩
    have other : a.handle.number ≠ previous.handle.number := (Nat.ne_of_lt older).symm
    simp [Ledger.openNumbersClose,numbers,other]

theorem soundUnread {d : Dispatcher} (sound : Sound d) {w : World} {engine : Engine}
    {url : String} {h : Handle} {l : Ledger}
    (opened : w.openDatabase d.ledger engine url = .ok (h,l)) :
    Sound { d with ledger := l.close h } := by
  obtain ⟨bounded,numbers,older⟩ := openNumbersOpened sound opened
  have given : h.number ∈ l.openNumbers := by simp [numbers]
  refine ⟨Ledger.boundedClose bounded (Ledger.openBelow given),?_⟩
  rw [Ledger.openNumbersClose,numbers,List.filter_append]
  have kept : (d.attached.toList.map (·.handle.number)).filter (· ≠ h.number) =
      d.attached.toList.map (·.handle.number) :=
    List.filter_eq_self.mpr fun n member => by simpa using Nat.ne_of_lt (older n member)
  rw [kept]
  simp

theorem soundDispatch {d : Dispatcher} (sound : Sound d) (rules : Rules) (w : World) (f : Frame) :
    Sound (d.dispatch rules w f).state := by
  have effect := dispatchEffect d rules w f
  generalize (d.dispatch rules w f).state = next at effect ⊢
  generalize (d.dispatch rules w f).attaches = success at effect
  cases effect with
  | attached attaches replaced =>
    obtain ⟨_,_,_,opened,_⟩ := attaches
    rw [replaced]
    exact soundReplace sound opened
  | unread opened => exact soundUnread sound opened
  | unchanged => exact sound

theorem soundAfter (rules : Rules) (past : List (World × Frame)) : Sound (after rules past) := by
  induction past using List.reverseRecOn with
  | nil => exact soundInitial
  | append_singleton past last ih =>
    rw [afterSnoc]
    exact soundDispatch ih ..

end Dispatcher
end Querent
