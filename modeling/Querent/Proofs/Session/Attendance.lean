import Mathlib.Data.List.Induction
import Mathlib.Logic.Relation
import Querent.Session.Attendance

/-! What an attendant does, whatever happens around it. The tasks of its session finish in any order,
before it begins or later; the signal is given before or later or never, or nobody is left who could
give it; and the attendant acts in between at any time. -/
namespace Querent.Session
open Attendant (Act Note Stage)

structure Scene where
  finished : List Task
  signal : Shutdown
  attendant : Attendant
  notes : List Note

namespace Scene

def start (finished : List Task) (signal : Shutdown) : Scene := ⟨finished,signal,.initial,[]⟩

inductive Step : Scene → Scene → Prop where
  | finishes (c : Scene) (t : Task) : Step c { c with finished := t :: c.finished }
  | gives (c : Scene) (held : c.signal.dropped = false) :
      Step c { c with signal := { c.signal with given := true } }
  | drops (c : Scene) : Step c { c with signal := { c.signal with dropped := true } }
  | acts {c : Scene} {a : Act} {attendant : Attendant} {note : Note}
      (acted : c.attendant.act c.finished.contains c.signal a = some (attendant,note)) :
      Step c { c with attendant, notes := c.notes ++ [note] }

abbrev Leads : Scene → Scene → Prop := Relation.ReflTransGen Step

end Scene

namespace Attendant

def Stage.waits : Stage → Bool
  | .watching _ => true
  | .joining => true
  | _ => false

def results (notes : List Note) : List Task :=
  notes.filterMap fun
    | .awaited t true => some t
    | _ => none

theorem memResults {notes : List Note} {t : Task} :
    t ∈ results notes ↔ .awaited t true ∈ notes := by
  simp only [results,List.mem_filterMap]
  constructor
  · rintro ⟨note,member,found⟩
    split at found <;> cases found
    exact member
  · exact fun member => ⟨_,member,rfl⟩

inductive Acted (finished : Task → Bool) (signal : Shutdown) : Attendant → Attendant → Note → Prop where
  | gave {stage left t} (waits : stage.waits = true) (done : finished t = true) :
      Acted finished signal ⟨stage,left ++ [t]⟩ ⟨if left = [] then .returned else stage,left⟩
        (.awaited t true)
  | pending {stage left t} (waits : stage.waits = true) (busy : finished t = false) :
      Acted finished signal ⟨stage,left ++ [t]⟩ ⟨stage,left ++ [t]⟩ (.awaited t false)
  | sees {left} (given : signal.given = true) :
      Acted finished signal ⟨.watching true,left⟩ ⟨.closing,left⟩ (.looked true)
  | looks {left} (quiet : signal.given = false) :
      Acted finished signal ⟨.watching true,left⟩ ⟨.watching (!signal.dropped),left⟩ (.looked false)
  | closes {left} : Acted finished signal ⟨.closing,left⟩ ⟨.joining,left⟩ .closed

section Acts
variable {finished : Task → Bool} {signal : Shutdown} {a a' : Attendant} {note : Note}

theorem actedOfAwait (waits : a.stage.waits = true) (acted : a.await finished = some (a',note)) :
    Acted finished signal a a' note := by
  obtain ⟨stage,handles⟩ := a
  rcases List.eq_nil_or_concat handles with rfl | ⟨left,t,rfl⟩
  · contradiction
  · simp only [await,List.concat_eq_append,List.getLast?_concat,List.dropLast_concat,
      List.isEmpty_iff] at acted
    rw [List.concat_eq_append]
    split at acted <;> cases acted
    · exact .gave waits (by assumption)
    · exact .pending waits (by simp_all)

theorem actedOfAct {act : Act} (acted : a.act finished signal act = some (a',note)) :
    Acted finished signal a a' note := by
  cases act with
  | await =>
    simp only [Attendant.act] at acted
    split at acted
    · exact actedOfAwait (by simp_all [Stage.waits]) acted
    · exact actedOfAwait (by simp_all [Stage.waits]) acted
    · contradiction
  | look =>
    obtain ⟨stage,handles⟩ := a
    simp only [Attendant.act] at acted
    split at acted <;> cases acted
    cases given : signal.given with
    | true => exact .sees given
    | false => exact .looks given
  | close =>
    obtain ⟨stage,handles⟩ := a
    simp only [Attendant.act] at acted
    split at acted <;> cases acted
    exact .closes

end Acts

/-- What was seen of the signal and done about it by a stage. Nothing is done between seeing it and
closing the session, and some task has not given its result when it is seen. -/
inductive Story : Stage → List Note → Prop where
  | watching {listening notes} (unseen : .looked true ∉ notes) (unclosed : .closed ∉ notes) :
      Story (.watching listening) notes
  | closing {earlier t} (unseen : .looked true ∉ earlier) (unclosed : .closed ∉ earlier)
      (before : .awaited t true ∉ earlier) : Story .closing (earlier ++ [.looked true])
  | joining {earlier later t} (unseen : .looked true ∉ earlier) (unclosed : .closed ∉ earlier)
      (before : .awaited t true ∉ earlier) (rest : ∀ note ∈ later, ∃ t gave, note = .awaited t gave) :
      Story .joining (earlier ++ .looked true :: .closed :: later)
  | returned {stage notes} (waits : stage.waits = true) (story : Story stage notes) :
      Story .returned notes

theorem storyAwaited {stage : Stage} {notes : List Note} {t : Task} {g : Bool}
    (waits : stage.waits = true) (story : Story stage notes) :
    Story stage (notes ++ [.awaited t g]) := by
  cases story with
  | watching unseen unclosed => exact .watching (by simpa using unseen) (by simpa using unclosed)
  | closing => contradiction
  | @joining earlier later t unseen unclosed before rest =>
    rw [List.append_assoc]
    refine .joining unseen unclosed before fun note member => ?_
    rcases List.mem_append.mp member with inside | here
    · exact rest note inside
    · exact ⟨_,_,List.mem_singleton.mp here⟩
  | returned => contradiction

theorem storyClosed {notes : List Note} (story : Story .closing notes) :
    Story .joining (notes ++ [.closed]) := by
  cases story with
  | closing unseen unclosed before =>
    rw [List.append_assoc]
    exact .joining unseen unclosed before (by simp)

theorem closedOfStory {stage : Stage} {notes : List Note} (story : Story stage notes)
    (closed : .closed ∈ notes) : ∃ earlier later, notes = earlier ++ .looked true :: .closed :: later ∧
      .closed ∉ earlier ∧ .closed ∉ later ∧ ∃ t, .awaited t true ∉ earlier := by
  induction story with
  | watching unseen unclosed => exact absurd closed unclosed
  | closing unseen unclosed => exact absurd closed (by simpa using unclosed)
  | @joining earlier later t unseen unclosed before rest =>
    refine ⟨earlier,later,rfl,unclosed,fun member => ?_,t,before⟩
    obtain ⟨_,_,same⟩ := rest _ member
    cases same
  | returned _ _ ih => exact ih closed

theorem seenOfStory {stage : Stage} {notes : List Note} (story : Story stage notes)
    (seen : .looked true ∈ notes) : stage = .closing ∨ .closed ∈ notes := by
  induction story with
  | watching unseen => exact absurd seen unseen
  | closing => exact .inl rfl
  | joining => exact .inr (by simp)
  | returned waits _ ih =>
    rcases ih seen with rfl | closed
    · contradiction
    · exact .inr closed

end Attendant

namespace Scene
open Attendant (Acted Story results memResults storyAwaited storyClosed)

structure Kept (c : Scene) : Prop where
  handles : c.attendant.handles ++ (results c.notes).reverse = Attendant.initial.handles
  finished : ∀ t, .awaited t true ∈ c.notes → t ∈ c.finished
  waiting : c.attendant.stage = .returned ↔ c.attendant.handles = []
  story : Story c.attendant.stage c.notes
  once : c.notes.Pairwise fun x y => ∀ t, x = .awaited t true → ∀ gave, y ≠ .awaited t gave
  given : .looked true ∈ c.notes → c.signal.given = true
  listening : c.attendant.stage = .watching false → c.signal.dropped = true ∧ c.signal.given = false

theorem keptStart (finished : List Task) (signal : Shutdown) : Kept (start finished signal) where
  handles := rfl
  finished := by simp [start]
  waiting := by simp [start,Attendant.initial]
  story := .watching (by simp [start]) (by simp [start])
  once := .nil
  given := by simp [start]
  listening := by simp [start,Attendant.initial]

theorem Kept.unresolved {c : Scene} (kept : Kept c) {t : Task} (member : t ∈ c.attendant.handles) :
    .awaited t true ∉ c.notes := by
  intro gave
  have apart : (c.attendant.handles ++ (results c.notes).reverse).Nodup := kept.handles ▸ by decide
  exact (List.nodup_append.mp apart).2.2 t member t (List.mem_reverse.mpr (memResults.mpr gave)) rfl

theorem onceSnoc {notes : List Note} {note : Note}
    (once : notes.Pairwise fun x y => ∀ t, x = .awaited t true → ∀ gave, y ≠ .awaited t gave)
    (fresh : ∀ t gave, note = .awaited t gave → .awaited t true ∉ notes) :
    (notes ++ [note]).Pairwise fun x y => ∀ t, x = .awaited t true → ∀ gave, y ≠ .awaited t gave := by
  refine List.pairwise_append.mpr ⟨once,List.pairwise_singleton _ _,?_⟩
  rintro _ earlier y here t rfl gave same
  exact fresh t gave ((List.mem_singleton.mp here).symm.trans same) earlier

theorem keptAct {c : Scene} {attendant : Attendant} {note : Note} (kept : Kept c)
    (acted : Acted c.finished.contains c.signal c.attendant attendant note) :
    Kept { c with attendant, notes := c.notes ++ [note] } := by
  have unresolved := @kept.unresolved
  obtain ⟨handles,finished,waiting,story,once,given,listening⟩ := kept
  obtain ⟨tasks,signal,before,notes⟩ := c
  cases acted with
  | @gave stage left t waits done =>
    refine ⟨?_,?_,?_,?_,onceSnoc once ?_,?_,?_⟩
    · simpa [results] using handles
    · intro u member
      rcases List.mem_append.mp member with earlier | here
      · exact finished u earlier
      · cases List.mem_singleton.mp here
        simpa using done
    · by_cases last : left = []
      · simp [last]
      · cases stage <;> simp_all [Stage.waits]
    · have told := storyAwaited (t := t) (g := true) waits story
      show Story (if left = [] then .returned else stage) _
      split
      · exact .returned waits told
      · exact told
    · rintro u gave ⟨⟩
      exact unresolved (by simp)
    · simpa using given
    · intro deaf
      refine listening ?_
      dsimp only at deaf
      split at deaf
      · contradiction
      · exact deaf
  | @pending stage left t waits busy =>
    refine ⟨?_,?_,?_,storyAwaited waits story,onceSnoc once ?_,?_,?_⟩
    · simpa [results] using handles
    · simpa using finished
    · simpa using waiting
    · rintro u gave ⟨⟩
      exact unresolved (by simp)
    · simpa using given
    · simpa using listening
  | @sees left seen =>
    refine ⟨?_,?_,?_,?_,onceSnoc once (by simp),fun _ => seen,?_⟩
    · simpa [results] using handles
    · simpa using finished
    · simpa using waiting
    · -- With no handle left it would have returned, so some task has not given its result.
      have some : left ≠ [] := fun none => Stage.noConfusion (waiting.mpr none)
      obtain ⟨t,member⟩ := List.exists_mem_of_ne_nil left some
      cases story with
      | watching unseen unclosed => exact .closing unseen unclosed (unresolved member)
    · simp
  | @looks left quiet =>
    refine ⟨?_,?_,?_,?_,onceSnoc once (by simp),?_,?_⟩
    · simpa [results] using handles
    · simpa using finished
    · simpa using waiting
    · cases story with
      | watching unseen unclosed =>
        exact .watching (by simpa using unseen) (by simpa using unclosed)
    · simpa using given
    · exact fun deaf => ⟨by simpa using deaf,quiet⟩
  | closes =>
    refine ⟨?_,?_,?_,?_,onceSnoc once (by simp),?_,?_⟩
    · simpa [results] using handles
    · simpa using finished
    · simpa using waiting
    · exact storyClosed story
    · simpa using given
    · simp

theorem keptStep {c c' : Scene} (kept : Kept c) (step : Step c c') : Kept c' := by
  cases step with
  | finishes t =>
    exact { kept with finished := fun u gave => List.mem_cons_of_mem t (kept.finished u gave) }
  | gives held =>
    refine { kept with given := fun _ => rfl, listening := fun deaf => ?_ }
    exact Bool.noConfusion (held.symm.trans (kept.listening deaf).1)
  | drops => exact { kept with listening := fun deaf => ⟨rfl,(kept.listening deaf).2⟩ }
  | acts acted => exact keptAct kept (Attendant.actedOfAct acted)

theorem keptLeads {c c' : Scene} (kept : Kept c) (leads : Leads c c') : Kept c' := by
  induction leads with
  | refl => exact kept
  | tail _ step ih => exact keptStep ih step

theorem neverGiven {c c' : Scene} (leads : Leads c c') (dropped : c.signal.dropped = true)
    (quiet : c.signal.given = false) : c'.signal.dropped = true ∧ c'.signal.given = false := by
  induction leads with
  | refl => exact ⟨dropped,quiet⟩
  | tail _ step ih =>
    cases step with
    | finishes | acts => exact ih
    | gives held => exact Bool.noConfusion (held.symm.trans ih.1)
    | drops => exact ⟨rfl,ih.2⟩

def act (c : Scene) (a : Act) : Option Scene :=
  (c.attendant.act c.finished.contains c.signal a).map fun (attendant, note) =>
    { c with attendant, notes := c.notes ++ [note] }

theorem putsAway {c : Scene} (finished : ∀ t, t ∈ c.finished)
    (waits : c.attendant.stage.waits = true) (some_ : c.attendant.handles ≠ []) :
    ∃ c', (List.replicate c.attendant.handles.length Act.await).foldlM act c = some c' ∧
      c'.attendant.stage = .returned := by
  obtain ⟨tasks,signal,⟨stage,handles⟩,notes⟩ := c
  -- The last handle is waited for first.
  induction handles using List.reverseRecOn generalizing notes with
  | nil => contradiction
  | append_singleton left t ih =>
    have done : tasks.contains t = true := List.contains_iff_mem.mpr (finished t)
    have first : act ⟨tasks,signal,⟨stage,left ++ [t]⟩,notes⟩ .await =
        some ⟨tasks,signal,⟨if left.isEmpty then .returned else stage,left⟩,
          notes ++ [.awaited t true]⟩ := by
      cases stage with
      | watching | joining =>
        simp only [act,Attendant.act,Attendant.await,List.getLast?_concat,List.dropLast_concat,
          if_pos done,Option.map_some]
      | closing | returned => contradiction
    simp only [List.length_append,List.length_singleton,List.replicate_succ,List.foldlM_cons,first,
      Option.bind_eq_bind,Option.bind_some]
    cases left with
    | nil => exact ⟨_,rfl,rfl⟩
    | cons u rest => exact ih _ finished waits (List.cons_ne_nil _ _)

theorem Kept.returns {c : Scene} (kept : Kept c) (finished : ∀ t, t ∈ c.finished) :
    ∃ (acts : List Act) (c' : Scene), acts.length ≤ 4 ∧ acts.foldlM act c = some c' ∧
      c'.attendant.stage = .returned := by
  have few : c.attendant.handles.length ≤ 3 := by
    have all := congrArg List.length kept.handles
    simp only [List.length_append,Attendant.initial,List.length_cons,List.length_nil] at all
    omega
  have left : c.attendant.stage ≠ .returned → c.attendant.handles ≠ [] :=
    fun stays none => stays (kept.waiting.mpr none)
  cases stage : c.attendant.stage with
  | returned => exact ⟨[],c,by simp,rfl,stage⟩
  | watching | joining =>
    obtain ⟨c',acted,returned⟩ := putsAway finished (by rw [stage]; rfl) (left (by simp [stage]))
    exact ⟨_,c',by simp; omega,acted,returned⟩
  | closing =>
    let closed : Scene :=
      { c with attendant := ⟨.joining,c.attendant.handles⟩, notes := c.notes ++ [.closed] }
    have first : c.act .close = some closed := by simp [act,Attendant.act,stage,closed]
    obtain ⟨c',acted,returned⟩ := putsAway (c := closed) finished rfl (left (by simp [stage]))
    refine ⟨.close :: List.replicate closed.attendant.handles.length .await,c',?_,?_,returned⟩
    · rw [List.length_cons,List.length_replicate]
      exact Nat.succ_le_succ few
    · rw [List.foldlM_cons,first]
      exact acted

structure Attends (c : Scene) : Prop where
  joins : c.attendant.stage = .returned → ∀ t, t ∈ c.finished ∧ .awaited t true ∈ c.notes
  once : c.notes.Pairwise fun x y => ∀ t, x = .awaited t true → ∀ gave, y ≠ .awaited t gave
  closes : .closed ∈ c.notes → ∃ earlier later, c.notes = earlier ++ .looked true :: .closed :: later ∧
    .closed ∉ earlier ∧ .closed ∉ later ∧ ∃ t, .awaited t true ∉ earlier
  closed : c.attendant.stage = .returned → (.closed ∈ c.notes ↔ .looked true ∈ c.notes)
  given : .looked true ∈ c.notes → c.signal.given = true
  dropped : c.signal.dropped = true → c.signal.given = false →
    ∀ c', Leads c c' → .closed ∉ c'.notes
  heeds : ∀ listening, c.attendant.stage = .watching listening → c.signal.given = true →
    ∃ c', [.look,.close].foldlM act c = some c' ∧ c'.notes = c.notes ++ [.looked true,.closed]
  returns : (∀ t, t ∈ c.finished) → ∃ (acts : List Act) (c' : Scene),
    acts.length ≤ 4 ∧ acts.foldlM act c = some c' ∧ c'.attendant.stage = .returned

theorem Kept.joins {c : Scene} (kept : Kept c) (returned : c.attendant.stage = .returned) (t : Task) :
    .awaited t true ∈ c.notes := by
  have all := kept.handles
  rw [kept.waiting.mp returned,List.nil_append] at all
  refine memResults.mp (List.mem_reverse.mp ?_)
  rw [all]
  cases t <;> decide

theorem Kept.heeds {c : Scene} (kept : Kept c) {listening : Bool}
    (watching : c.attendant.stage = .watching listening) (given : c.signal.given = true) :
    ∃ c', [.look,.close].foldlM act c = some c' ∧
      c'.notes = c.notes ++ [.looked true,.closed] := by
  cases listening with
  | false => exact Bool.noConfusion ((kept.listening watching).2.symm.trans given)
  | true => exact ⟨_,by simp [act,Attendant.act,watching,given]; rfl,by simp⟩

theorem Kept.dropped {c c' : Scene} (kept : Kept c) (leads : Leads c c')
    (dropped : c.signal.dropped = true) (quiet : c.signal.given = false) : .closed ∉ c'.notes := by
  intro closed
  have after := keptLeads kept leads
  obtain ⟨_,_,same,-⟩ := Attendant.closedOfStory after.story closed
  have given := after.given (by simp [same])
  exact Bool.noConfusion ((neverGiven leads dropped quiet).2.symm.trans given)

theorem Kept.closed {c : Scene} (kept : Kept c) (returned : c.attendant.stage = .returned) :
    .closed ∈ c.notes ↔ .looked true ∈ c.notes := by
  constructor
  · intro closed
    obtain ⟨_,_,same,-⟩ := Attendant.closedOfStory kept.story closed
    simp [same]
  · intro seen
    rcases Attendant.seenOfStory kept.story seen with closing | closed
    · exact Stage.noConfusion (closing.symm.trans returned)
    · exact closed

theorem attends {finished : List Task} {signal : Shutdown} {c : Scene}
    (leads : Leads (start finished signal) c) : Attends c := by
  have kept := keptLeads (keptStart finished signal) leads
  exact {
    joins := fun returned t => ⟨kept.finished t (kept.joins returned t),kept.joins returned t⟩
    once := kept.once
    closes := Attendant.closedOfStory kept.story
    closed := kept.closed
    given := kept.given
    dropped := fun dropped quiet _ leads => kept.dropped leads dropped quiet
    heeds := fun _ => kept.heeds
    returns := kept.returns }

theorem attendsInterrupted : ∃ c, Leads (start [.dispatcher] ⟨false,false⟩) c ∧ Attends c ∧
    c.attendant.stage = .returned ∧ c.notes = [.awaited .dispatcher true,.awaited .writer false,
      .looked true,.closed,.awaited .writer true,.awaited .reader true] := by
  have interrupted : Leads (start [.dispatcher] ⟨false,false⟩) ⟨[.dispatcher],⟨true,false⟩,
      ⟨.watching true,[.reader,.writer]⟩,[.awaited .dispatcher true,.awaited .writer false]⟩ :=
    ((Relation.ReflTransGen.single (.acts (a := .await) rfl)).tail (.acts (a := .await) rfl)).tail
      (.gives _ rfl)
  have leads := (((((interrupted.tail (.acts (a := .look) rfl)).tail (.acts (a := .close) rfl)).tail
    (.finishes _ .reader)).tail (.finishes _ .writer)).tail (.acts (a := .await) rfl)).tail
      (.acts (a := .await) rfl)
  exact ⟨_,leads,attends leads,rfl,rfl⟩

end Scene
end Querent.Session
