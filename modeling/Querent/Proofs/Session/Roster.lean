import Mathlib.Data.Set.Card
import Querent.Proofs.Session.Registry

/-! What a registry answers over a history of calls. Callers wait for each other, so that whatever they do
together is one history. A registry answers it as a map from ids does, and every way to ask it tells what
that map holds. -/
namespace Querent.Session

namespace Registry

inductive Call where
  | register (id : Id) (at_ : Instant)
  | unregister (id : Id)
  deriving DecidableEq, Repr

def Call.id : Call → Id
  | .register id _ => id
  | .unregister id => id

inductive Answer where
  | registered (added : Bool)
  | unregistered (removed : Option Entry)
  deriving DecidableEq, Repr

def Answer.isSuccess : Answer → Bool
  | .registered added => added
  | .unregistered removed => removed.isSome

def perform (r : Registry) : Call → Registry × Answer
  | .register id at_ => ((r.register id at_).1,.registered (r.register id at_).2)
  | .unregister id => ((r.unregister id).1,.unregistered (r.unregister id).2)

def run {σ : Type} (perform : σ → Call → σ × Answer) : σ → List Call → σ × List Answer
  | s, [] => (s,[])
  | s, c :: rest =>
    let after := run perform (perform s c).1 rest
    (after.1,(perform s c).2 :: after.2)

end Registry

open Registry (Call Answer)

abbrev Roster := Id → Option Entry

namespace Roster

def empty : Roster := fun _ => none

def answer (found : Option Entry) : Call → Answer
  | .register _ _ => .registered found.isNone
  | .unregister _ => .unregistered found

-- An entry that is there stays as it is, with its time.
def entry (found : Option Entry) : Call → Option Entry
  | .register id at_ => found.or (some ⟨id,at_⟩)
  | .unregister _ => none

def perform (m : Roster) (c : Call) : Roster × Answer :=
  (Function.update m c.id (entry (m c.id) c),answer (m c.id) c)

theorem afterCall (m : Roster) (c : Call) (id : Id) :
    (m.perform c).1 id = if id = c.id then entry (m c.id) c else m id :=
  Function.update_apply m c.id _ id

theorem performCommutes (m : Roster) {a b : Call} (different : a.id ≠ b.id) :
    ((m.perform a).1.perform b).1 = ((m.perform b).1.perform a).1 ∧
      ((m.perform a).1.perform b).2 = (m.perform b).2 := by
  have ofA : (m.perform b).1 a.id = m a.id := by rw [afterCall,if_neg different]
  have ofB : (m.perform a).1 b.id = m b.id := by rw [afterCall,if_neg (Ne.symm different)]
  constructor
  · funext id
    rw [afterCall (m.perform a).1,ofB,afterCall (m.perform b).1,ofA,afterCall m a,afterCall m b]
    by_cases isA : id = a.id
    · rw [if_pos isA,if_pos isA,if_neg (isA ▸ different)]
    · rw [if_neg isA,if_neg isA]
  · exact congrArg (answer · b) ofB

end Roster

namespace Registry
variable {r r' : Registry} {id : Id}

theorem getAppend (id : Id) (at_ : Instant) (absent : r.get? id = none) :
    (Registry.mk (r.entries ++ [⟨id,at_⟩])).get? = Function.update r.get? id (some ⟨id,at_⟩) := by
  funext other
  by_cases same : other = id
  · subst same
    rw [get?] at absent
    simp [get?,absent]
  · have different : id ≠ other := Ne.symm same
    simp [get?,same,different]

theorem getUnregister (r : Registry) (id : Id) :
    (r.unregister id).1.get? = Function.update r.get? id none := by
  funext other
  rw [unregister,get?,List.find?_filter]
  by_cases same : other = id
  · subst same
    simp
  · rw [Function.update_of_ne same,get?]
    congr 1
    funext e
    by_cases here : e.id = other
    · simp [here,same]
    · simp [here]

theorem performMap (r : Registry) (c : Call) : (r.perform c).1.get? = (Roster.perform r.get? c).1 ∧
    (r.perform c).2 = (Roster.perform r.get? c).2 := by
  cases c with
  | register id at_ =>
    rw [perform,register,contains,Roster.perform,Call.id]
    cases found : r.get? id with
    | none => exact ⟨getAppend id at_ found,rfl⟩
    | some e =>
      have kept : Function.update r.get? id (some e) = r.get? := by rw [← found,Function.update_eq_self]
      exact ⟨kept.symm,rfl⟩
  | unregister id => exact ⟨getUnregister r id,rfl⟩

theorem idsPerform (distinct : r.ids.Nodup) (c : Call) : (r.perform c).1.ids.Nodup := by
  cases c with
  | register id at_ =>
    rw [perform,register]
    cases known : r.contains id with
    | true => exact distinct
    | false =>
      have new : id ∉ r.ids := fun member => by
        obtain ⟨e,member,same⟩ := List.mem_map.mp member
        rw [containsIffMem.mpr ⟨e,member,same⟩] at known
        contradiction
      simpa [ids] using distinct.concat new
  | unregister id => exact distinct.sublist (List.filter_sublist.map _)

theorem runMap (r : Registry) (calls : List Call) :
    (run perform r calls).1.get? = (run Roster.perform r.get? calls).1 ∧
      (run perform r calls).2 = (run Roster.perform r.get? calls).2 := by
  induction calls generalizing r with
  | nil => exact ⟨rfl,rfl⟩
  | cons c rest ih =>
    obtain ⟨map,answer⟩ := performMap r c
    obtain ⟨maps,answers⟩ := ih (r.perform c).1
    rw [map] at maps answers
    exact ⟨maps,by rw [run,run,answer,answers]⟩

theorem idsRun (distinct : r.ids.Nodup) (calls : List Call) : (run perform r calls).1.ids.Nodup := by
  induction calls generalizing r with
  | nil => exact distinct
  | cons c rest ih => exact ih (idsPerform distinct c)

def lastSuccess (history : List (Call × Answer)) (id : Id) : Option Call :=
  ((history.filter fun h => h.1.id = id && h.2.isSuccess).getLast?).map (·.1)

def left (before : Option Entry) : Option Call → Option Entry
  | none => before
  | some (.register id at_) => some ⟨id,at_⟩
  | some (.unregister _) => none

theorem lastSuccessCons (h : Call × Answer) (history : List (Call × Answer)) (id : Id) :
    lastSuccess (h :: history) id = (lastSuccess history id).or
      (if h.1.id = id ∧ h.2.isSuccess = true then some h.1 else none) := by
  rw [lastSuccess,lastSuccess,List.filter_cons]
  by_cases here : h.1.id = id ∧ h.2.isSuccess = true
  · rw [if_pos here,if_pos (by simpa using here),List.getLast?_cons]
    cases List.getLast? (List.filter _ history) <;> rfl
  · rw [if_neg here,if_neg (by simpa using here),Option.or_none]

theorem leftOr (before : Option Entry) (first last : Option Call) :
    left before (last.or first) = left (left before first) last := by
  cases last with
  | none => rfl
  | some c => cases c <;> rfl

theorem leftPerform (m : Roster) (c : Call) (id : Id) : (m.perform c).1 id =
    left (m id) (if c.id = id ∧ (m.perform c).2.isSuccess = true then some c else none) := by
  rw [Roster.afterCall,Roster.perform]
  by_cases here : c.id = id
  · subst here
    cases found : m c.id <;> cases c <;> simp [Roster.entry,Roster.answer,Answer.isSuccess,left,Call.id]
  · rw [if_neg (Ne.symm here),if_neg fun both => here both.1]
    rfl

theorem leftRun (m : Roster) (calls : List Call) (id : Id) : (run Roster.perform m calls).1 id =
    left (m id) (lastSuccess (calls.zip (run Roster.perform m calls).2) id) := by
  induction calls generalizing m with
  | nil => rfl
  | cons c rest ih =>
    rw [run]
    dsimp only
    rw [List.zip_cons_cons,lastSuccessCons,leftOr,← leftPerform,ih]

theorem lastSuccessId {history : List (Call × Answer)} {c : Call} (last : lastSuccess history id = some c) :
    c.id = id := by
  obtain ⟨h,found,rfl⟩ := Option.map_eq_some_iff.mp last
  have kept := (List.mem_filter.mp (List.mem_of_getLast? found)).2
  simp only [Bool.and_eq_true,decide_eq_true_eq] at kept
  exact kept.1

theorem leftSomeIff (history : List (Call × Answer)) (id : Id) :
    (left none (lastSuccess history id)).isSome = true ↔
      ∃ at_, lastSuccess history id = some (.register id at_) := by
  cases last : lastSuccess history id with
  | none => simp [left]
  | some c =>
    have own := lastSuccessId last
    cases c with
    | register other at_ =>
      have same : other = id := own
      simp [left,same]
    | unregister other => simp [left]

theorem memIds : id ∈ r.ids ↔ (r.get? id).isSome = true := by
  rw [← contains,containsIffMem,ids,List.mem_map]

theorem isEmptyIff : r.isEmpty = true ↔ r.get? = Roster.empty := by
  rw [isEmpty,List.isEmpty_iff]
  constructor
  · intro none
    funext id
    rw [get?,none]
    rfl
  · intro nobody
    have absent : ∀ id, id ∉ r.ids := fun id member => by
      rw [memIds,nobody] at member
      contradiction
    exact List.map_eq_nil_iff.mp (List.eq_nil_iff_forall_not_mem.mpr absent)

structure Tells (r : Registry) (m : Roster) : Prop where
  get : ∀ id, r.get? id = m id
  contains : ∀ id, r.contains id = (m id).isSome
  once : r.ids.Nodup
  ids : ∀ id, id ∈ r.ids ↔ (m id).isSome = true
  size : r.size = {id | (m id).isSome = true}.ncard
  isEmpty : r.isEmpty = true ↔ m = Roster.empty

theorem tellsOfMap (distinct : r.ids.Nodup) {m : Roster} (map : r.get? = m) : Tells r m := by
  subst map
  have members : {id | (r.get? id).isSome = true} = r.ids.toFinset := by
    ext id
    simp [memIds]
  refine ⟨fun _ => rfl,fun _ => rfl,distinct,fun _ => memIds,?_,isEmptyIff⟩
  rw [members,Set.ncard_coe_finset,List.toFinset_card_of_nodup distinct,ids,List.length_map,size]

structure Records (calls : List Call) (r : Registry) (answers : List Answer) : Prop where
  answered : answers = (run Roster.perform Roster.empty calls).2
  tells : Tells r (run Roster.perform Roster.empty calls).1
  latest : ∀ id, r.get? id = left none (lastSuccess (calls.zip answers) id)
  listed : ∀ id, id ∈ r.ids ↔ ∃ at_, lastSuccess (calls.zip answers) id = some (.register id at_)
  refuses : ∀ id at_, r.get? id ≠ none → r.register id at_ = (r,false)
  registers : ∀ id at_, r.get? id = none → (r.register id at_).2 = true ∧
    Tells (r.register id at_).1 (Function.update r.get? id (some ⟨id,at_⟩))
  unregisters : ∀ id, (r.unregister id).2 = r.get? id ∧
    Tells (r.unregister id).1 (Function.update r.get? id none)
  idle : ∀ id, (r.unregister id).1.unregister id = ((r.unregister id).1,none)
  commutes : ∀ a b, a.id ≠ b.id → ((r.perform a).1.perform b).2 = (r.perform b).2 ∧
    ∃ m, Tells ((r.perform a).1.perform b).1 m ∧ Tells ((r.perform b).1.perform a).1 m

theorem registerPresent (at_ : Instant) (present : r.get? id ≠ none) : r.register id at_ = (r,false) := by
  rw [register,contains,if_pos (Option.isSome_iff_ne_none.mpr present)]

theorem registerAbsent (distinct : r.ids.Nodup) (at_ : Instant) (absent : r.get? id = none) :
    (r.register id at_).2 = true ∧
      Tells (r.register id at_).1 (Function.update r.get? id (some ⟨id,at_⟩)) := by
  obtain ⟨map,-⟩ := performMap r (.register id at_)
  have unknown : ¬r.contains id = true := by simp [contains,absent]
  refine ⟨by rw [register,if_neg unknown],tellsOfMap (idsPerform distinct (.register id at_)) ?_⟩
  refine map.trans ?_
  rw [Roster.perform,Call.id,absent]
  rfl

theorem unregisterAgain (r : Registry) (id : Id) :
    (r.unregister id).1.unregister id = ((r.unregister id).1,none) := by
  have absent : (r.unregister id).1.get? id = none := by rw [getUnregister,Function.update_self]
  rw [unregister,absent]
  simp [unregister]

theorem performCommutes (distinct : r.ids.Nodup) {a b : Call} (different : a.id ≠ b.id) :
    ((r.perform a).1.perform b).2 = (r.perform b).2 ∧
      ∃ m, Tells ((r.perform a).1.perform b).1 m ∧ Tells ((r.perform b).1.perform a).1 m := by
  obtain ⟨mapA,-⟩ := performMap r a
  obtain ⟨mapB,answerB⟩ := performMap r b
  obtain ⟨mapAB,answerAB⟩ := performMap (r.perform a).1 b
  obtain ⟨mapBA,-⟩ := performMap (r.perform b).1 a
  obtain ⟨same,answer⟩ := Roster.performCommutes r.get? different
  rw [mapA] at mapAB answerAB
  rw [mapB,← same] at mapBA
  exact ⟨by rw [answerAB,answer,answerB],_,tellsOfMap (idsPerform (idsPerform distinct a) b) mapAB,
    tellsOfMap (idsPerform (idsPerform distinct b) a) mapBA⟩

theorem recordsHistory (calls : List Call) :
    Records calls (run perform empty calls).1 (run perform empty calls).2 := by
  obtain ⟨map,answers⟩ := runMap empty calls
  have distinct : (run perform empty calls).1.ids.Nodup := idsRun (by simp [ids,empty]) calls
  have latest (id : Id) : (run perform empty calls).1.get? id =
      left none (lastSuccess (calls.zip (run perform empty calls).2) id) := by
    rw [map,answers,leftRun]
    rfl
  exact {
    answered := answers
    tells := tellsOfMap distinct map
    latest := latest
    listed := fun id => by rw [memIds,latest,leftSomeIff]
    refuses := fun _ at_ present => registerPresent at_ present
    registers := fun _ at_ absent => registerAbsent distinct at_ absent
    unregisters := fun id => ⟨rfl,tellsOfMap (idsPerform distinct (.unregister id)) (getUnregister _ id)⟩
    idle := unregisterAgain _
    commutes := fun _ _ different => performCommutes distinct different }

-- A second registration changes nothing, and who left may come again.
example : run perform empty [.register "a" ⟨1,0⟩,.register "b" ⟨2,0⟩,.register "a" ⟨3,0⟩,.unregister "b",
    .unregister "b",.register "b" ⟨4,0⟩] = (⟨[⟨"a",⟨1,0⟩⟩, ⟨"b",⟨4,0⟩⟩]⟩,[.registered true,.registered true,
      .registered false,.unregistered (some ⟨"b",⟨2,0⟩⟩),.unregistered none,.registered true]) := by
  decide +kernel

end Registry
end Querent.Session
