import Querent.Dispatcher

/-! Runs of a dispatcher, one frame after another, and what is common to all its responses. -/
namespace Querent
namespace Dispatcher

def after (rules : Rules) (frames : List (World × Frame)) : Dispatcher :=
  (run rules .initial frames).1

def responses (rules : Rules) (frames : List (World × Frame)) : List Response :=
  (run rules .initial frames).2.map (·.response)

theorem runAppend (rules : Rules) (d : Dispatcher) (first second : List (World × Frame)) :
    run rules d (first ++ second) = ((run rules (run rules d first).1 second).1,
      (run rules d first).2 ++ (run rules (run rules d first).1 second).2) := by
  induction first generalizing d with
  | nil => rfl
  | cons head tail ih => simp [run,ih]

@[simp] theorem afterNone (rules : Rules) : after rules [] = .initial := rfl

@[simp] theorem responsesNone (rules : Rules) : responses rules [] = [] := rfl

theorem runSnoc (rules : Rules) (d : Dispatcher) (frames : List (World × Frame)) (w : World)
    (f : Frame) : run rules d (frames ++ [(w,f)]) =
      (((run rules d frames).1.dispatch rules w f).state,
        (run rules d frames).2 ++ [(run rules d frames).1.dispatch rules w f]) :=
  runAppend rules d frames [(w,f)]

theorem afterSnoc (rules : Rules) (frames : List (World × Frame)) (w : World) (f : Frame) :
    after rules (frames ++ [(w,f)]) = ((after rules frames).dispatch rules w f).state :=
  congrArg Prod.fst (runSnoc rules .initial frames w f)

theorem responsesSnoc (rules : Rules) (frames : List (World × Frame)) (w : World) (f : Frame) :
    responses rules (frames ++ [(w,f)]) =
      responses rules frames ++ [((after rules frames).dispatch rules w f).response] := by
  rw [responses,runSnoc,List.map_append]
  rfl

theorem outcomesSnoc (rules : Rules) (frames : List (World × Frame)) (w : World) (f : Frame) :
    (run rules .initial (frames ++ [(w,f)])).2 =
      (run rules .initial frames).2 ++ [(after rules frames).dispatch rules w f] :=
  congrArg Prod.snd (runSnoc rules .initial frames w f)

theorem outcomesLength (rules : Rules) (d : Dispatcher) (frames : List (World × Frame)) :
    (run rules d frames).2.length = frames.length := by
  induction frames generalizing d with
  | nil => rfl
  | cons head tail ih => simp only [run,List.length_cons,ih]

theorem outcomeAt {rules : Rules} {d : Dispatcher} {frames : List (World × Frame)} {i : Nat}
    {o : Outcome} (found : (run rules d frames).2[i]? = some o) :
    ∃ w f, frames[i]? = some (w,f) ∧ o = (run rules d (frames.take i)).1.dispatch rules w f := by
  induction frames generalizing d i with
  | nil => simp [run] at found
  | cons head tail ih =>
    obtain ⟨w,f⟩ := head
    cases i with
    | zero =>
      simp only [run,List.getElem?_cons_zero,Option.some.injEq] at found
      exact ⟨w,f,rfl,found.symm⟩
    | succ i =>
      simp only [run,List.getElem?_cons_succ] at found
      exact ih found

end Dispatcher

def Frame.responseKind : Frame → String
  | .message m =>
    if m.kind = Message.attachKind then Response.attachKind
    else if m.kind = Message.askKind then Response.askKind
    else Response.unknownKind
  | .malformed _ => Response.invalidKind

namespace Dispatcher

theorem respondKind (w : World) (kind : String) (answer : Except Failure String) :
    (respond w kind answer).kind = kind := by
  cases answer <;> rfl

theorem dispatchKind (d : Dispatcher) (rules : Rules) (w : World) (f : Frame) :
    (d.dispatch rules w f).response.kind = f.responseKind := by
  cases f with
  | malformed fault => rfl
  | message m =>
    simp only [dispatch,handle,Frame.responseKind]
    split
    · exact respondKind ..
    · split
      · exact respondKind ..
      · rfl

theorem dispatchNotBusy (d : Dispatcher) (rules : Rules) (w : World) (f : Frame) :
    (d.dispatch rules w f).response.kind ≠ Response.busyKind := by
  rw [dispatchKind]
  cases f with
  | malformed fault =>
    simp only [Frame.responseKind]
    decide
  | message m =>
    simp only [Frame.responseKind]
    split
    · decide
    · split <;> decide

end Dispatcher
end Querent
