import Querent.Proofs.Session.Reception
import Querent.Proofs.Session.Registry

/-! Ending a session. Any number of calls may be ending it at once, each at its own place between
claiming the end, giving the signal and leaving the registry. The calls at each place are counted: one
that has claimed the end and not given the signal yet makes up for the signal, and one that has given
it and not left yet makes up for the entry. From these counts follows what the flags can say. -/
namespace Querent.Session

@[simp]
def Reader.ending? : Reader → Option Teardown
  | .ending t => some t
  | _ => none

@[simp]
def Dispatching.ending? : Dispatching → Option Teardown
  | .ending t => some t
  | _ => none

@[simp]
def Writer.ending? : Writer → Option Teardown
  | .ending t => some t
  | _ => none

theorem Reader.endingNext (next : Option Teardown) :
    ((next.map Reader.ending).getD .finished).ending? = next := by
  cases next <;> rfl

theorem Dispatching.endingNext (next : Option Teardown) :
    ((next.map Dispatching.ending).getD .finished).ending? = next := by
  cases next <;> rfl

theorem Writer.endingNext (next : Option Teardown) :
    ((next.map Writer.ending).getD .finished).ending? = next := by
  cases next <;> rfl

def running (s : Session) : List Teardown :=
  s.reader.ending?.toList ++ s.dispatching.ending?.toList ++ s.writer.ending?.toList ++ s.calls

def Action.tears? (s : Session) : Action → Option Teardown
  | .readerEnds => s.reader.ending?
  | .dispatcherEnds => s.dispatching.ending?
  | .writerEnds => s.writer.ending?
  | .callEnds index => s.calls[index]?
  | _ => none

inductive Torn (r : Registry) (s : Session) :
    Teardown → Registry → (alive signalled : Bool) → Option Teardown → Prop where
  | claims (alive : s.alive = true) : Torn r s .claim r false s.signalled (some .signal)
  | late (ended : s.alive = false) : Torn r s .claim r false s.signalled none
  | signals : Torn r s .signal r s.alive true (some .leave)
  | leaves : Torn r s .leave (r.unregister s.id).1 s.alive s.signalled none

theorem tornOfTear {r r' : Registry} {s : Session} {t : Teardown} {alive signalled next}
    (torn : tear r s t = (r',{ s with alive, signalled },next)) :
    Torn r s t r' alive signalled next := by
  have registry := congrArg Prod.fst torn
  have living := congrArg (·.2.1.alive) torn
  have given := congrArg (·.2.1.signalled) torn
  have after := congrArg (·.2.2) torn
  cases t with
  | claim =>
    simp only [tear] at registry living given after
    cases was : s.alive with
    | true =>
      simp only [was,if_true] at registry living given after
      subst registry living given after
      exact .claims was
    | false =>
      simp only [was,Bool.false_eq_true,if_false] at registry living given after
      subst registry living given after
      exact .late was
  | signal =>
    subst registry living given after
    exact .signals
  | leave =>
    subst registry living given after
    exact .leaves

inductive Advance (r : Registry) (s : Session) (r' : Registry) (s' : Session) :
    Option Teardown → Prop where
  | tears {t alive signalled next} (torn : Torn r s t r' alive signalled next)
      (alive : s'.alive = alive) (signalled : s'.signalled = signalled) (member : t ∈ s.running)
      (counts : ∀ x, s'.running.count x + [t].count x = s.running.count x + next.toList.count x) :
      Advance r s r' s' (some t)
  | other (registry : r' = r) (alive : s'.alive = s.alive) (signalled : s'.signalled = s.signalled)
      (counts : ∀ x, x ≠ .claim → s'.running.count x = s.running.count x) : Advance r s r' s' none

theorem countEraseIdx {calls : List Teardown} {index : Nat} {t : Teardown}
    (calling : calls[index]? = some t) (x : Teardown) :
    (calls.eraseIdx index).count x + [t].count x = calls.count x := by
  obtain ⟨within,here⟩ := List.getElem?_eq_some_iff.mp calling
  have split : calls = calls.take index ++ t :: calls.drop (index + 1) := by
    rw [← here,List.getElem_cons_drop,List.take_append_drop]
  have counted := congrArg (List.count x) split
  rw [List.eraseIdx_eq_take_drop_succ]
  simp only [List.count_append,List.count_cons,List.count_nil] at counted ⊢
  omega

theorem countSet {calls : List Teardown} {index : Nat} {t : Teardown}
    (calling : calls[index]? = some t) (next x : Teardown) :
    (calls.set index next).count x + [t].count x = calls.count x + [next].count x := by
  obtain ⟨within,here⟩ := List.getElem?_eq_some_iff.mp calling
  have split : calls = calls.take index ++ t :: calls.drop (index + 1) := by
    rw [← here,List.getElem_cons_drop,List.take_append_drop]
  have counted := congrArg (List.count x) split
  rw [List.set_eq_take_append_cons_drop,if_pos within]
  simp only [List.count_append,List.count_cons,List.count_nil] at counted ⊢
  omega

theorem advanceOfMove {rules : Dispatcher.Rules} {r r' : Registry} {s s' : Session} {a : Action}
    (move : Move rules r s a r' s') : Advance r s r' s' (a.tears? s) := by
  cases move with
  | @readerEnds t r' alive signalled next ending torn =>
    have now : s.reader.ending? = some t := by rw [ending]; rfl
    rw [show Action.readerEnds.tears? s = some t from now]
    refine .tears (tornOfTear torn) rfl rfl (by simp [running,ending]) ?_
    intro x
    simp only [running,now,Reader.endingNext,Option.toList_some,List.count_append]
    omega
  | @dispatcherEnds t r' alive signalled next ending torn =>
    have now : s.dispatching.ending? = some t := by rw [ending]; rfl
    rw [show Action.dispatcherEnds.tears? s = some t from now]
    refine .tears (tornOfTear torn) rfl rfl (by simp [running,ending]) ?_
    intro x
    simp only [running,now,Dispatching.endingNext,Option.toList_some,List.count_append]
    omega
  | @writerEnds t r' alive signalled next ending torn =>
    have now : s.writer.ending? = some t := by rw [ending]; rfl
    rw [show Action.writerEnds.tears? s = some t from now]
    refine .tears (tornOfTear torn) rfl rfl (by simp [running,ending]) ?_
    intro x
    simp only [running,now,Writer.endingNext,Option.toList_some,List.count_append]
    omega
  | @callEnds index t r' alive signalled next calling torn =>
    rw [show (Action.callEnds index).tears? s = some t from calling]
    have among : t ∈ s.calls := List.mem_of_getElem? calling
    refine .tears (tornOfTear torn) rfl rfl (by simp [running,among]) ?_
    intro x
    cases next with
    | none =>
      have counted := countEraseIdx calling x
      simp only [running,List.count_append,Option.elim,Option.toList_none,List.count_nil]
      omega
    | some next =>
      have counted := countSet calling next x
      simp only [running,List.count_append,Option.elim,Option.toList_some]
      omega
  | @receive deadline at_ e reading =>
    obtain ⟨reader,inbound,outbound,same⟩ := receiveFrame s at_ e
    have quiet := receiveReader reading at_ e
    rw [same] at quiet ⊢
    refine .other rfl rfl rfl ?_
    intro x other
    rcases quiet with ⟨late,keeps⟩ | ends | ⟨_,_,stops⟩
    · simp [running,reading,show reader = .reading late from keeps]
    · simp [running,reading,show reader = .ending .claim from ends,other.symm]
    · simp [running,reading,show reader = .finished from stops]
  | readerStops reading | readerExpires reading =>
    exact .other rfl rfl rfl fun x other => by simp [running,reading,other.symm]
  | take idle | dispatcherStops idle =>
    exact .other rfl rfl rfl fun x _ => by simp [running,idle]
  | answer handling => exact .other rfl rfl rfl fun x _ => by simp [running,handling]
  | push holding | abandon holding => exact .other rfl rfl rfl fun x _ => by simp [running,holding]
  | release closing => exact .other rfl rfl rfl fun x other => by simp [running,closing,other.symm]
  | write waiting | ping waiting | part waiting | writerStops waiting =>
    exact .other rfl rfl rfl fun x other => by simp [running,waiting,other.symm]
  | sent sending | sendFails sending =>
    exact .other rfl rfl rfl fun x other => by simp [running,sending,other.symm]
  | parted parting => exact .other rfl rfl rfl fun x _ => by simp [running,parting]
  | call => exact .other rfl rfl rfl fun x other => by simp [running,other.symm]
  | pass => exact .other rfl rfl rfl fun x _ => rfl

theorem fixedMove {rules : Dispatcher.Rules} {r r' : Registry} {s s' : Session} {a : Action}
    (move : Move rules r s a r' s') : s'.id = s.id ∧ s'.limits = s.limits := by
  cases move with
  | @receive _ at_ e reading =>
    obtain ⟨reader,inbound,outbound,same⟩ := receiveFrame s at_ e
    rw [same]
    exact ⟨rfl,rfl⟩
  | _ => exact ⟨rfl,rfl⟩

structure Lifeline (s : Session) : Prop where
  signals : s.running.count .signal + s.signalled.toNat = (!s.alive).toNat
  leaves : s.running.count .leave ≤ s.signalled.toNat
  dispatcher : s.dispatching = .finished → s.alive = false

@[simp] theorem awaitPongEnding (l : Limits) (now : Nat) : (l.awaitPong now).ending? = none := by
  unfold Limits.awaitPong
  split <;> rfl

theorem lifelineInitial (id : Id) (l : Limits) (now : Nat) : Lifeline (initial id l now) := by
  refine ⟨?_,?_,?_⟩
  · simp only [initial,running,awaitPongEnding]
    split <;> rfl
  · simp only [initial,running,awaitPongEnding]
    split <;> exact Nat.le_refl _
  · intro finished
    cases finished

section Steps
variable {rules : Dispatcher.Rules} {r r' : Registry} {s s' : Session} {a : Action}

theorem Lifeline.ended (lifeline : Lifeline s) (given : s.signalled = true) : s.alive = false := by
  have signals := lifeline.signals
  rw [Bool.toNat_eq_one.mpr given] at signals
  have once := Bool.toNat_le (!s.alive)
  have ended : (!s.alive) = true := Bool.toNat_eq_one.mp (by omega)
  simpa using ended

theorem Lifeline.leaving (lifeline : Lifeline s) (member : .leave ∈ s.running) :
    s.signalled = true := by
  have some := List.count_pos_iff.mpr member
  have leaves := lifeline.leaves
  have once := Bool.toNat_le s.signalled
  exact Bool.toNat_eq_one.mp (by omega)

theorem Lifeline.signalling (lifeline : Lifeline s) (member : .signal ∈ s.running) :
    s.alive = false ∧ s.signalled = false := by
  have some := List.count_pos_iff.mpr member
  have signals := lifeline.signals
  have once := Bool.toNat_le (!s.alive)
  have ended : (!s.alive) = true := Bool.toNat_eq_one.mp (by omega)
  exact ⟨by simpa using ended,Bool.toNat_eq_zero.mp (by omega)⟩

theorem aliveMove (move : Move rules r s a r' s') (ended : s.alive = false) : s'.alive = false := by
  have advance := advanceOfMove move
  generalize a.tears? s = step at advance
  cases advance with
  | tears torn alive signalled member counts =>
    rw [alive]
    cases torn with
    | claims | late => rfl
    | signals | leaves => exact ended
  | other registry alive signalled counts => rw [alive,ended]

theorem signalledMove (move : Move rules r s a r' s') (given : s.signalled = true) :
    s'.signalled = true := by
  have advance := advanceOfMove move
  generalize a.tears? s = step at advance
  cases advance with
  | tears torn alive signalled member counts =>
    rw [signalled]
    cases torn with
    | signals => rfl
    | claims | late | leaves => exact given
  | other registry alive signalled counts => rw [signalled,given]

theorem endedAfter {t : Teardown} {alive signalled} (lifeline : Lifeline s) (member : t ∈ s.running)
    (torn : Torn r s t r' alive signalled none) : alive = false := by
  cases torn with
  | late => rfl
  | leaves => exact lifeline.ended (lifeline.leaving member)

theorem finishedMove (lifeline : Lifeline s) (move : Move rules r s a r' s')
    (finished : s'.dispatching = .finished) : s'.alive = false := by
  have earlier : s.dispatching = .finished → s'.alive = false :=
    fun before => aliveMove move (lifeline.dispatcher before)
  cases move with
  | @dispatcherEnds t r' alive signalled next ending torn =>
    cases next with
    | some next => cases finished
    | none => exact endedAfter lifeline (by simp [running,ending]) (tornOfTear torn)
  | @receive _ at_ e reading =>
    obtain ⟨reader,inbound,outbound,same⟩ := receiveFrame s at_ e
    rw [same] at finished earlier ⊢
    exact earlier finished
  | take | answer | push | abandon | dispatcherStops | release => cases finished
  | _ => exact earlier finished

theorem signalsMove (lifeline : Lifeline s) (move : Move rules r s a r' s') :
    s'.running.count .signal + s'.signalled.toNat = (!s'.alive).toNat := by
  have before := lifeline.signals
  have advance := advanceOfMove move
  generalize a.tears? s = step at advance
  cases advance with
  | tears torn alive signalled member counts =>
    have counted := counts .signal
    rw [alive,signalled]
    cases torn with
    | claims living =>
      have more : s'.running.count .signal = s.running.count .signal + 1 := counted
      have none : s.running.count .signal + s.signalled.toNat = 0 := by rw [before,living]; rfl
      show _ = 1
      omega
    | late ended =>
      have same : s'.running.count .signal = s.running.count .signal := counted
      rw [same,before,ended]
    | signals =>
      have fewer : s'.running.count .signal + 1 = s.running.count .signal := counted
      obtain ⟨ended,unsignalled⟩ := lifeline.signalling member
      rw [ended,unsignalled] at before
      rw [ended]
      exact fewer.trans before
    | leaves =>
      have same : s'.running.count .signal = s.running.count .signal := counted
      rw [same,before]
  | other registry alive signalled counts =>
    rw [alive,signalled,counts .signal (by decide)]
    exact before

theorem leavesMove (lifeline : Lifeline s) (move : Move rules r s a r' s') :
    s'.running.count .leave ≤ s'.signalled.toNat := by
  have before := lifeline.leaves
  have advance := advanceOfMove move
  generalize a.tears? s = step at advance
  cases advance with
  | tears torn alive signalled member counts =>
    have counted := counts .leave
    rw [signalled]
    cases torn with
    | claims | late =>
      have same : s'.running.count .leave = s.running.count .leave := counted
      rw [same]
      exact before
    | signals =>
      have more : s'.running.count .leave = s.running.count .leave + 1 := counted
      rw [(lifeline.signalling member).2] at before
      rw [more]
      exact Nat.succ_le_succ before
    | leaves =>
      have fewer : s'.running.count .leave + 1 = s.running.count .leave := counted
      omega
  | other registry alive signalled counts =>
    rw [signalled,counts .leave (by decide)]
    exact before

theorem lifelineMove (lifeline : Lifeline s) (move : Move rules r s a r' s') : Lifeline s' :=
  ⟨signalsMove lifeline move,leavesMove lifeline move,finishedMove lifeline move⟩

end Steps

theorem othersMove {rules : Dispatcher.Rules} {r r' : Registry} {s s' : Session} {a : Action}
    (move : Move rules r s a r' s') : r'.others s.id = r.others s.id := by
  have advance := advanceOfMove move
  generalize a.tears? s = step at advance
  cases advance with
  | tears torn alive signalled member counts =>
    cases torn with
    | leaves => exact Registry.othersUnregister r s.id
    | claims | late | signals => rfl
  | other registry alive signalled counts => rw [registry]

def Entered (r : Registry) (s : Session) : Prop :=
  s.running.count .leave + (!r.contains s.id).toNat = s.signalled.toNat

theorem enteredMove {rules : Dispatcher.Rules} {r r' : Registry} {s s' : Session} {a : Action}
    (lifeline : Lifeline s) (entered : Entered r s) (move : Move rules r s a r' s') :
    Entered r' s' := by
  have advance := advanceOfMove move
  unfold Entered at entered ⊢
  rw [(fixedMove move).1]
  generalize a.tears? s = step at advance
  cases advance with
  | tears torn alive signalled member counts =>
    have counted := counts .leave
    rw [signalled]
    cases torn with
    | claims | late =>
      have same : s'.running.count .leave = s.running.count .leave := counted
      rw [same]
      exact entered
    | signals =>
      have more : s'.running.count .leave = s.running.count .leave + 1 := counted
      rw [(lifeline.signalling member).2] at entered
      rw [more,Nat.add_right_comm,entered]
      rfl
    | leaves =>
      have fewer : s'.running.count .leave + 1 = s.running.count .leave := counted
      have some := List.count_pos_iff.mpr member
      have given := Bool.toNat_le s.signalled
      rw [Registry.containsUnregister]
      show _ + 1 = _
      omega
  | other registry alive signalled counts =>
    rw [signalled,registry,counts .leave (by decide)]
    exact entered

end Querent.Session
