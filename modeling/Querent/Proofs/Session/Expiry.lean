import Querent.Proofs.Session.Keepalive

/-! The end of a session whose client sends no pong in time. Frames arrive at fixed times, and the reader
handles each when it arrives. From these times alone follows when the session ends: a pong that comes
before the deadline moves it, and nothing else does.

Steps take no time here. Time passes only while no call is in the middle of ending the session, and while
the reader is in its loop no further than to its deadline and to the next frame. -/
namespace Querent.Session

abbrev Schedule := List (Nat × Incoming)

def Incoming.isPong : Incoming → Bool
  | .pong => true
  | _ => false

def Incoming.isLast : Incoming → Bool
  | .close => true
  | .failed => true
  | .ended => true
  | _ => false

namespace Schedule

def before (time : Nat) (arrivals : Schedule) : Schedule := arrivals.filter fun a => a.1 < time

def pongs (arrivals : Schedule) : Schedule := arrivals.filter fun a => a.2.isPong

def lastPong (start : Nat) (arrivals : Schedule) : Nat :=
  arrivals.foldl (fun last a => if a.2.isPong then a.1 else last) start

def expiry (patience : Nat) : (deadline : Nat) → Schedule → Nat
  | deadline, [] => deadline
  | deadline, (time, e) :: later =>
    if time < deadline then expiry patience (if e.isPong then time + patience else deadline) later
    else deadline

def Ordered (arrivals : Schedule) (start : Nat) : Prop :=
  (∀ a ∈ arrivals, start ≤ a.1) ∧ arrivals.Pairwise fun a b => a.1 ≤ b.1

theorem Ordered.later {start time : Nat} {e : Incoming} {later : Schedule}
    (ordered : Ordered ((time,e) :: later) start) : Ordered later time :=
  List.pairwise_cons.mp ordered.2

theorem Ordered.first {start time : Nat} {e : Incoming} {later : Schedule}
    (ordered : Ordered ((time,e) :: later) start) : ∀ b ∈ (time,e) :: later, time ≤ b.1 := by
  intro b member
  rcases List.mem_cons.mp member with rfl | inside
  · exact Nat.le_refl _
  · exact ordered.later.1 b inside

theorem expiryLater (patience : Nat) {deadline now : Nat} {arrivals : Schedule}
    (ordered : Ordered arrivals now) (near : deadline ≤ now + patience) :
    deadline ≤ expiry patience deadline arrivals := by
  induction arrivals generalizing now deadline with
  | nil => exact Nat.le_refl _
  | cons a later ih =>
    obtain ⟨time,e⟩ := a
    have from_ := ordered.1 (time,e) List.mem_cons_self
    simp only [expiry]
    split
    · by_cases pong : e.isPong
      · rw [if_pos pong]
        exact Nat.le_trans (by omega) (ih ordered.later (Nat.le_refl _))
      · rw [if_neg pong]
        exact ih ordered.later (by omega)
    · exact Nat.le_refl _

theorem beforeCons {time at_ : Nat} {e : Incoming} {later : Schedule} (early : at_ < time) :
    before time ((at_,e) :: later) = (at_,e) :: later.before time :=
  List.filter_cons_of_pos (decide_eq_true early)

theorem beforeNone {time start : Nat} {arrivals : Schedule} (ordered : Ordered arrivals start)
    (late : time ≤ start) : arrivals.before time = [] := by
  refine List.filter_eq_nil_iff.mpr fun a member => ?_
  have from_ := ordered.1 a member
  simp only [decide_eq_true_eq]
  omega

theorem expiryBeyond (patience : Nat) {deadline start : Nat} {arrivals : Schedule}
    (ordered : Ordered arrivals start) (late : deadline ≤ start) :
    expiry patience deadline arrivals = deadline := by
  cases arrivals with
  | nil => rfl
  | cons a later =>
    have from_ := ordered.1 a List.mem_cons_self
    exact if_neg (by omega)

theorem expiryOfLastPong (patience : Nat) {last now : Nat} {arrivals : Schedule}
    (ordered : Ordered arrivals now) (earlier : last ≤ now) :
    expiry patience (last + patience) arrivals =
      lastPong last (arrivals.before (expiry patience (last + patience) arrivals)) + patience := by
  induction arrivals generalizing now last with
  | nil => rfl
  | cons a later ih =>
    obtain ⟨time,e⟩ := a
    have from_ := ordered.1 (time,e) List.mem_cons_self
    by_cases inTime : time < last + patience
    · have next : expiry patience (last + patience) ((time,e) :: later) =
          expiry patience ((if e.isPong then time else last) + patience) later := by
        simp only [expiry,if_pos inTime]
        split <;> rfl
      have since : last ≤ (if e.isPong then time else last) ∧
          (if e.isPong then time else last) ≤ time := by split <;> omega
      have kept := expiryLater patience ordered.later (Nat.add_le_add_right since.2 _)
      rw [next,beforeCons (by omega)]
      exact ih ordered.later since.2
    · have beyond : Ordered ((time,e) :: later) (last + patience) :=
        ⟨fun b member => Nat.le_trans (Nat.le_of_not_lt inTime) (ordered.first b member),ordered.2⟩
      rw [expiryBeyond _ beyond (Nat.le_refl _),beforeNone beyond (Nat.le_refl _)]
      rfl

theorem expiryOfPongs (patience deadline : Nat) {start : Nat} {arrivals : Schedule}
    (ordered : Ordered arrivals start) :
    expiry patience deadline arrivals = expiry patience deadline arrivals.pongs := by
  induction arrivals generalizing deadline start with
  | nil => rfl
  | cons a later ih =>
    obtain ⟨time,e⟩ := a
    by_cases inTime : time < deadline
    · by_cases pong : e.isPong
      · simp only [pongs,List.filter_cons,pong,if_true,expiry,if_pos inTime]
        exact ih _ ordered.later
      · simp only [pongs,List.filter_cons,pong,Bool.false_eq_true,if_false,expiry,if_pos inTime]
        exact ih _ ordered.later
    · have beyond : Ordered (pongs ((time,e) :: later)) deadline :=
        ⟨fun b member => Nat.le_trans (Nat.le_of_not_lt inTime)
          (ordered.first b (List.mem_filter.mp member).1),ordered.2.filter _⟩
      rw [expiryBeyond _ beyond (Nat.le_refl _)]
      exact if_neg inTime

end Schedule

namespace Taken

def received? (t : Taken) : Option (Nat × Incoming) :=
  match t.action with
  | .receive _ e => some (t.before.2.now,e)
  | _ => none

end Taken

def received (trace : List Taken) : Schedule := trace.filterMap Taken.received?

def Action.isPrompt : Action → Bool
  | .receive .. => false
  | .pass _ => false
  | _ => true

inductive Scheduled (rules : Dispatcher.Rules) (id : Id) (l : Limits) (start : Nat)
    (arrivals : Schedule) : Session → List Taken → Schedule → Prop where
  | start : Scheduled rules id l start arrivals (initial id l start) [] arrivals
  | receive (at_) {s trace time e left r r' s'}
      (before : Scheduled rules id l start arrivals s trace ((time,e) :: left)) (arrived : s.now = time)
      (taken : step rules r s (.receive at_ e) = some (r',s')) :
      Scheduled rules id l start arrivals s' (trace ++ [⟨.receive at_ e,(r,s),(r',s')⟩]) left
  | pass (ms) {s trace left r r' s'} (before : Scheduled rules id l start arrivals s trace left)
      (quiet : s.running = [])
      (timely : ∀ {deadline}, s.reader = .reading deadline →
        s.now + ms ≤ deadline ∧ ∀ a ∈ left, s.now + ms ≤ a.1)
      (taken : step rules r s (.pass ms) = some (r',s')) :
      Scheduled rules id l start arrivals s' (trace ++ [⟨.pass ms,(r,s),(r',s')⟩]) left
  | prompt {s trace left a r r' s'} (before : Scheduled rules id l start arrivals s trace left)
      (prompt : a.isPrompt = true) (taken : step rules r s a = some (r',s')) :
      Scheduled rules id l start arrivals s' (trace ++ [⟨a,(r,s),(r',s')⟩]) left

structure Undisturbed (arrivals : Schedule) (trace : List Taken) (time : Nat) : Prop where
  apart : ∀ a ∈ arrivals, a.1 ≠ time
  going : ∀ a ∈ arrivals, a.1 < time → a.2.isLast = false
  quiet : ∀ t ∈ trace, t.before.2.signalled = true → time ≤ t.before.2.now

theorem Undisturbed.earlier {arrivals : Schedule} {trace : List Taken} {time : Nat} {t : Taken}
    (undisturbed : Undisturbed arrivals (trace ++ [t]) time) : Undisturbed arrivals trace time :=
  ⟨undisturbed.apart,undisturbed.going,fun t member =>
    undisturbed.quiet t (List.mem_append_left _ member)⟩

structure Taken.expires (t : Taken) (time : Nat) : Prop where
  onTime : t.before.2.now = time
  reading : t.before.2.reader = .reading time
  leaves : t.action = .readerExpires ∨ t.action = .readerStops ∧ t.before.2.signalled = true

inductive Standing (patience time : Nat) (s : Session) (trace : List Taken) (left : Schedule) :
    Prop where
  | reads {deadline} (reading : s.reader = .reading deadline) (inTime : s.now ≤ deadline)
      (near : deadline ≤ s.now + patience) (ordered : left.Ordered s.now)
      (due : Schedule.expiry patience deadline left = time)
  | ends (stopped : s.reader.waits = false) (early : s.now < time) (dead : s.alive = false)
      (ordered : left.Ordered s.now)
  | expired (stopped : s.reader.waits = false) (past : time ≤ s.now)
      (ending : s.reader = .ending .claim ∨ s.alive = false) (late : ∀ a ∈ left, time < a.1)
      (expires : ∃ t ∈ trace, t.expires time)
      (ended : time < s.now → s.alive = false ∧ s.signalled = true)

section Steps
variable {rules : Dispatcher.Rules} {r r' : Registry} {s s' : Session} {a : Action}

theorem waitsMove (move : Move rules r s a r' s') (stopped : s.reader.waits = false) :
    s'.reader.waits = false := by
  cases reader : s'.reader with
  | reading deadline =>
    rcases readingMove move reader with ⟨_,same⟩ | ⟨pong,_⟩
    · rw [same] at stopped
      contradiction
    · cases move with
      | receive reading =>
        rw [reading] at stopped
        contradiction
      | _ => contradiction
  | ending | finished => rfl

theorem promptMove {deadline : Nat} (move : Move rules r s a r' s') (prompt : a.isPrompt = true)
    (reading : s.reader = .reading deadline) : s'.reader = .reading deadline ∨
      a = .readerStops ∧ s.signalled = true ∧ s'.reader = .finished ∨
      a = .readerExpires ∧ deadline ≤ s.now ∧ s'.reader = .ending .claim := by
  cases move with
  | receive | pass => contradiction
  | readerStops _ given => exact .inr (.inl ⟨rfl,given,rfl⟩)
  | readerExpires here late =>
    cases here.symm.trans reading
    exact .inr (.inr ⟨rfl,late,rfl⟩)
  | readerEnds ending => exact Reader.noConfusion (ending.symm.trans reading)
  | _ => exact .inl reading

theorem promptClock (move : Move rules r s a r' s') (prompt : a.isPrompt = true) : s'.now = s.now := by
  rcases clockMove move with still | ⟨ms,rfl,_⟩
  · exact still
  · contradiction

theorem endingMove (lifeline : Lifeline s) (move : Move rules r s a r' s')
    (ending : s.reader = .ending .claim ∨ s.alive = false) :
    s'.reader = .ending .claim ∨ s'.alive = false := by
  rcases ending with ending | dead
  · cases move with
    | @readerEnds t r' alive signalled next here torn =>
      have member : t ∈ s.running := by simp [running,here]
      exact .inr (endedByTorn lifeline member (tornOfTear torn))
    | receive reading | readerStops reading | readerExpires reading =>
      exact Reader.noConfusion (reading.symm.trans ending)
    | _ => exact .inl ending
  · exact .inr (aliveMove move dead)

theorem signalledOfQuiet (lifeline : Lifeline s) (quiet : s.running = []) (dead : s.alive = false) :
    s.signalled = true := by
  -- The signal is given or some call is still to give it; where none runs it is given.
  have signals := lifeline.signals
  rw [quiet,dead] at signals
  exact Bool.toNat_eq_one.mp (by simpa using signals)

theorem arrivesInTime {patience deadline now time : Nat} {e : Incoming} {left : Schedule}
    (inTime : now ≤ deadline) (near : deadline ≤ now + patience)
    (due : Schedule.expiry patience deadline ((now,e) :: left) = time)
    (ordered : Schedule.Ordered ((now,e) :: left) now) (apart : now ≠ time) :
    now < deadline ∧ now < time := by
  have kept := Schedule.expiryLater patience ordered near
  by_cases early : now < deadline
  · exact ⟨early,by omega⟩
  · have beyond := Schedule.expiryBeyond patience ordered (Nat.le_of_not_lt early)
    omega

theorem standingFrame {patience deadline time : Nat} {at_ : Instant} {f : Frame} {trace : List Taken}
    {left : Schedule} (lifeline : Lifeline s) (reading : s.reader = .reading deadline)
    (inTime : s.now ≤ deadline) (near : deadline ≤ s.now + patience) (ordered : left.Ordered s.now)
    (due : left.expiry patience deadline = time) (early : s.now < time) :
    Standing patience time (s.enqueue at_ f) trace left := by
  have received := receptionOfFrame s at_ f
  generalize s.enqueue at_ f = s' at received
  cases received with
  | lost finished => exact .ends rfl early (lifeline.dispatcher finished) ordered
  | queued | dropped => exact .reads reading inTime near ordered due

theorem standingReceive {deadline time : Nat} {at_ : Instant} {e : Incoming} {trace : List Taken}
    {left : Schedule} (lifeline : Lifeline s) (reading : s.reader = .reading deadline)
    (inTime : s.now ≤ deadline) (near : deadline ≤ s.now + s.limits.readDeadline)
    (ordered : Schedule.Ordered ((s.now,e) :: left) s.now)
    (due : Schedule.expiry s.limits.readDeadline deadline ((s.now,e) :: left) = time)
    (apart : s.now ≠ time) (counted : time < maxTime) (going : s.now < time → e.isLast = false) :
    Standing s.limits.readDeadline time (s.receive at_ e) trace left := by
  obtain ⟨early,before⟩ := arrivesInTime inTime near due ordered apart
  simp only [Schedule.expiry,if_pos early] at due
  cases e with
  | pong =>
    -- The new deadline is no later than the time at which the last one passes.
    have moved := Schedule.expiryLater s.limits.readDeadline ordered.later (Nat.le_refl _)
    have renewed := Nat.lt_of_le_of_lt (Nat.le_trans moved (Nat.le_of_eq due)) counted
    exact .reads (if_pos renewed) (Nat.le_add_right _ _) (Nat.le_refl _) ordered.later due
  | ping => exact .reads reading inTime near ordered.later due
  | text t => exact standingFrame lifeline reading inTime near ordered.later due before
  | binary octets => exact standingFrame lifeline reading inTime near ordered.later due before
  | close | failed | ended => exact Bool.noConfusion (going before)

theorem standingPrompt {patience time : Nat} {trace : List Taken} {left : Schedule}
    (lifeline : Lifeline s) (standing : Standing patience time s trace left)
    (apart : ∀ a ∈ left, a.1 ≠ time) (quiet : s.signalled = true → time ≤ s.now)
    (prompt : a.isPrompt = true) (move : Move rules r s a r' s') :
    Standing patience time s' (trace ++ [⟨a,(r,s),(r',s')⟩]) left := by
  have clock := promptClock move prompt
  cases standing with
  | @reads deadline reading inTime near ordered due =>
    have latest := Schedule.expiryLater patience ordered near
    -- Both ways out of the loop come at the deadline, when no frame that comes before it is left.
    have leaves (past : time ≤ s.now) (stopped : s'.reader.waits = false)
        (ending : s'.reader = .ending .claim ∨ s'.alive = false)
        (how : a = .readerExpires ∨ a = .readerStops ∧ s.signalled = true) :
        Standing patience time s' (trace ++ [⟨a,(r,s),(r',s')⟩]) left := by
      have now : s.now = time := by omega
      have same : deadline = time := by omega
      refine .expired stopped (by omega) ending ?_
        ⟨⟨a,(r,s),(r',s')⟩,by simp,now,same ▸ reading,how⟩ (by omega)
      intro a member
      exact Nat.lt_of_le_of_ne (now ▸ ordered.1 a member) (apart a member).symm
    rcases promptMove move prompt reading with same | ⟨stops,given,finished⟩ | ⟨expires,late,ending⟩
    · exact .reads same (clock ▸ inTime) (clock ▸ near) (clock ▸ ordered) due
    · exact leaves (quiet given) (by rw [finished]; rfl)
        (.inr (aliveMove move (lifeline.ended given))) (.inr ⟨stops,given⟩)
    · have beyond := Schedule.expiryBeyond patience ordered late
      exact leaves (by omega) (by rw [ending]; rfl) (.inl ending) (.inl expires)
  | ends stopped early dead ordered =>
    exact .ends (waitsMove move stopped) (clock ▸ early) (aliveMove move dead) (clock ▸ ordered)
  | expired stopped past ending late expires ended =>
    obtain ⟨t,member,expires⟩ := expires
    refine .expired (waitsMove move stopped) (clock ▸ past) (endingMove lifeline move ending) late
      ⟨t,List.mem_append_left _ member,expires⟩ ?_
    intro beyond
    obtain ⟨dead,given⟩ := ended (clock ▸ beyond)
    exact ⟨aliveMove move dead,signalledMove move given⟩

theorem expiresOnTime {patience time : Nat} {trace : List Taken} {left : Schedule}
    (standing : Standing patience time s trace left) (move : Move rules r s .readerExpires r' s') :
    s.now = time := by
  cases move with
  | readerExpires reading late =>
    cases standing with
    | @reads deadline here inTime near ordered due =>
      cases here.symm.trans reading
      have beyond := Schedule.expiryBeyond patience ordered late
      omega
    | ends stopped | expired stopped =>
      rw [reading] at stopped
      contradiction

theorem standingPass {patience time ms : Nat} {trace : List Taken} {left : Schedule}
    (lifeline : Lifeline s) (standing : Standing patience time s trace left) (free : s.running = [])
    (timely : ∀ {deadline}, s.reader = .reading deadline →
      s.now + ms ≤ deadline ∧ ∀ a ∈ left, s.now + ms ≤ a.1)
    (quiet : s.signalled = true → time ≤ s.now) :
    Standing patience time { s with now := s.now + ms }
      (trace ++ [⟨.pass ms,(r,s),(r,{ s with now := s.now + ms })⟩]) left := by
  cases standing with
  | @reads deadline reading inTime near ordered due =>
    obtain ⟨inTime,later⟩ := timely reading
    refine .reads reading inTime ?_ ⟨later,ordered.2⟩ due
    exact Nat.le_trans near (Nat.add_le_add_right (Nat.le_add_right _ _) _)
  | ends stopped early dead ordered =>
    exact absurd (quiet (signalledOfQuiet lifeline free dead)) (Nat.not_le.mpr early)
  | expired stopped past ending late expires ended =>
    obtain ⟨t,member,expires⟩ := expires
    have dead : s.alive = false := by
      rcases ending with ending | dead
      · simp [running,ending] at free
      · exact dead
    have given := signalledOfQuiet lifeline free dead
    exact .expired stopped (Nat.le_trans past (Nat.le_add_right _ _)) (.inr dead) late
      ⟨t,List.mem_append_left _ member,expires⟩ fun _ => ⟨dead,given⟩

end Steps

theorem receivedSnoc (trace : List Taken) (t : Taken) :
    received (trace ++ [t]) = received trace ++ t.received?.toList := by
  cases here : t.received? <;> simp [received,here]

theorem receivedPrompt {a : Action} (prompt : a.isPrompt = true) (before after : Registry × Session) :
    (⟨a,before,after⟩ : Taken).received? = none := by
  cases a <;> first | rfl | contradiction

section Runs
variable {rules : Dispatcher.Rules} {id : Id} {l : Limits} {start time : Nat} {arrivals left : Schedule}
  {s : Session} {trace : List Taken}

theorem Scheduled.traced (scheduled : Scheduled rules id l start arrivals s trace left) :
    Traced rules id l start s trace := by
  induction scheduled with
  | start => exact .start
  | receive _ _ _ taken ih => exact ih.step taken
  | pass _ _ _ _ taken ih => exact ih.step taken
  | prompt _ _ taken ih => exact ih.step taken

theorem Scheduled.inOrder (scheduled : Scheduled rules id l start arrivals s trace left) :
    received trace ++ left = arrivals := by
  induction scheduled with
  | start => rfl
  | @receive at_ s trace time e left r r' s' before arrived taken ih =>
    rw [← ih,receivedSnoc,← arrived,List.append_assoc]
    rfl
  | pass ms before quiet timely taken ih =>
    rw [receivedSnoc]
    exact (congrArg (· ++ _) (List.append_nil _)).trans ih
  | prompt before prompt taken ih =>
    rw [receivedSnoc,receivedPrompt prompt]
    exact (congrArg (· ++ _) (List.append_nil _)).trans ih

structure Timetable (l : Limits) (time : Nat) (s : Session) (trace : List Taken) (left : Schedule) :
    Prop where
  standing : Standing l.readDeadline time s trace left
  handled : ∀ a ∈ received trace, a.1 < time
  only : ∀ t ∈ trace, t.action = .readerExpires → t.before.2.now = time

theorem timetableInitial (counted : start + l.readDeadline < maxTime)
    (ordered : arrivals.Ordered start) :
    Timetable l (arrivals.expiry l.readDeadline (start + l.readDeadline)) (initial id l start) []
      arrivals :=
  ⟨.reads (if_pos counted) (Nat.le_add_right _ _) (Nat.le_refl _) ordered rfl,by simp [received],
    by simp⟩

theorem Timetable.next {s' : Session} {t : Taken} {left' : Schedule}
    (timetable : Timetable l time s trace left)
    (standing : Standing l.readDeadline time s' (trace ++ [t]) left')
    (handled : ∀ a ∈ t.received?, a.1 < time)
    (only : t.action = .readerExpires → t.before.2.now = time) :
    Timetable l time s' (trace ++ [t]) left' := by
  refine ⟨standing,?_,?_⟩
  · intro a member
    rw [receivedSnoc] at member
    rcases List.mem_append.mp member with earlier | here
    · exact timetable.handled a earlier
    · exact handled a (Option.mem_toList.mp here)
  · intro u member
    rcases List.mem_append.mp member with earlier | here
    · exact timetable.only u earlier
    · cases List.mem_singleton.mp here
      exact only

theorem timetableScheduled (counted : time < maxTime) (ordered : arrivals.Ordered start)
    (due : arrivals.expiry l.readDeadline (start + l.readDeadline) = time)
    (scheduled : Scheduled rules id l start arrivals s trace left)
    (undisturbed : Undisturbed arrivals trace time) : Timetable l time s trace left := by
  induction scheduled with
  | start =>
    have first := Schedule.expiryLater l.readDeadline ordered (Nat.le_refl _)
    exact due ▸ timetableInitial (Nat.lt_of_le_of_lt first (due ▸ counted)) ordered
  | @receive at_ s trace arrival e left r r' s' before arrived taken ih =>
    have timetable := ih undisturbed.earlier
    have member : (arrival,e) ∈ arrivals := by rw [← before.inOrder]; simp
    have kept := keptTraced before.traced
    subst arrived
    cases moveOfStep taken with
    | receive reading =>
      cases timetable.standing with
      | ends stopped | expired stopped =>
        rw [reading] at stopped
        contradiction
      | reads here inTime near ordered due =>
        -- It arrives in the loop, and so before the deadline.
        have apart := undisturbed.apart _ member
        have early := (arrivesInTime inTime near due ordered apart).2
        refine timetable.next ?_ (fun a here => Option.some.inj here ▸ early) Action.noConfusion
        rw [← kept.limits] at near due ⊢
        exact standingReceive kept.lifeline here inTime near ordered due apart counted
          (undisturbed.going _ member)
  | @pass ms s trace left r r' s' before free timely taken ih =>
    have timetable := ih undisturbed.earlier
    have quiet := undisturbed.quiet ⟨.pass ms,(r,s),(r',s')⟩ (by simp)
    cases taken
    exact timetable.next (standingPass (keptTraced before.traced).lifeline timetable.standing free
      timely quiet) (by simp [Taken.received?]) Action.noConfusion
  | @prompt s trace left a r r' s' before prompt taken ih =>
    have timetable := ih undisturbed.earlier
    have move := moveOfStep taken
    have quiet := undisturbed.quiet ⟨a,(r,s),(r',s')⟩ (by simp)
    have apart : ∀ a ∈ left, a.1 ≠ time := fun a member =>
      undisturbed.apart a (by rw [← before.inOrder]; exact List.mem_append_right _ member)
    refine timetable.next (standingPrompt (keptTraced before.traced).lifeline timetable.standing apart
      quiet prompt move) ?_ ?_
    · simp [receivedPrompt prompt]
    · rintro rfl
      exact expiresOnTime timetable.standing move

end Runs

theorem queuesMove {rules : Dispatcher.Rules} {r r' : Registry} {s s' : Session} {a : Action}
    (move : Move rules r s a r' s') (grows : s.inbound.length < s'.inbound.length) :
    ∃ at_ e, a = .receive at_ e := by
  cases move with
  | receive => exact ⟨_,_,rfl⟩
  | take _ waiting =>
    rw [waiting,List.length_cons] at grows
    exact absurd (Nat.lt_of_succ_lt grows) (Nat.lt_irrefl _)
  | _ => exact absurd grows (Nat.lt_irrefl _)

structure Expires (l : Limits) (start : Nat) (arrivals : Schedule) (time : Nat) (s : Session)
    (trace : List Taken) (left : Schedule) : Prop where
  deadline : time = Schedule.lastPong start (arrivals.before time) + l.readDeadline
  pongs : time = arrivals.pongs.expiry l.readDeadline (start + l.readDeadline)
  handled : received trace ++ left = arrivals ∧ ∀ a ∈ left, a.1 < time → s.now ≤ a.1
  refused : (∀ a ∈ received trace, a.1 < time) ∧ ∀ t ∈ trace,
    t.before.2.inbound.length < t.after.2.inbound.length → t.before.2.now < time
  stays : s.now < time → s.alive = true → s.reader.waits = true
  only : ∀ t ∈ trace, t.action = .readerExpires → t.before.2.now = time
  expires : time < s.now → received trace = arrivals.before time ∧
    (∃ t ∈ trace, t.expires time) ∧ s.alive = false ∧ s.signalled = true

/-- The reader ends the session one read deadline after the last pong that comes before that, or after
the start if there is none, whatever other frames come and whatever the other tasks do, unless
something else ends the session before. That time must be one that can be counted. -/
theorem expiresAfterLastPong {rules : Dispatcher.Rules} {id : Id} {l : Limits} {start : Nat}
    {arrivals left : Schedule} {s : Session} {trace : List Taken} (ordered : arrivals.Ordered start)
    (counted : arrivals.expiry l.readDeadline (start + l.readDeadline) < maxTime)
    (scheduled : Scheduled rules id l start arrivals s trace left)
    (undisturbed : Undisturbed arrivals trace
      (arrivals.expiry l.readDeadline (start + l.readDeadline))) :
    Expires l start arrivals (arrivals.expiry l.readDeadline (start + l.readDeadline)) s trace left := by
  have timetable := timetableScheduled counted ordered rfl scheduled undisturbed
  have deadline := Schedule.expiryOfLastPong l.readDeadline ordered (Nat.le_refl _)
  have pongs := Schedule.expiryOfPongs l.readDeadline (start + l.readDeadline) ordered
  have inOrder := scheduled.inOrder
  generalize arrivals.expiry l.readDeadline (start + l.readDeadline) = time at *
  obtain ⟨standing,handled,only⟩ := timetable
  have queued : ∀ t ∈ trace, t.before.2.inbound.length < t.after.2.inbound.length →
      t.before.2.now < time := by
    intro t member grows
    obtain ⟨at_,e,arrival⟩ := queuesMove (movesTraced scheduled.traced t member).2 grows
    refine handled (t.before.2.now,e) (List.mem_filterMap.mpr ⟨t,member,?_⟩)
    simp only [Taken.received?,arrival]
  cases standing with
  | reads reading inTime near later due =>
    refine ⟨deadline,pongs,⟨inOrder,fun a member _ => later.1 a member⟩,⟨handled,queued⟩,
      fun _ _ => by rw [reading]; rfl,only,fun beyond => ?_⟩
    have kept := Schedule.expiryLater l.readDeadline later near
    omega
  | ends stopped early dead later =>
    exact ⟨deadline,pongs,⟨inOrder,fun a member _ => later.1 a member⟩,⟨handled,queued⟩,
      fun _ alive => Bool.noConfusion (dead.symm.trans alive),only,fun beyond => by omega⟩
  | expired stopped past ending late expires ended =>
    refine ⟨deadline,pongs,⟨inOrder,fun a member early => absurd (late a member) (by omega)⟩,
      ⟨handled,queued⟩,fun early => by omega,only,fun beyond => ⟨?_,expires,ended beyond⟩⟩
    have none : left.before time = [] :=
      List.filter_eq_nil_iff.mpr fun a member => by have := late a member; simp; omega
    have all : (received trace).before time = received trace :=
      List.filter_eq_self.mpr fun a member => decide_eq_true (handled a member)
    calc received trace = (received trace).before time ++ left.before time := by
          rw [all,none,List.append_nil]
      _ = (received trace ++ left).before time := (List.filter_append _ _).symm
      _ = arrivals.before time := by rw [inOrder]

theorem expiresAfterPong :
    let arrivals : Schedule := [(1000,.pong), (3500,.text "x"), (4500,.text "y")]
    ∃ rules s trace, Schedule.Ordered arrivals 0 ∧ arrivals.expiry 3000 3000 = 4000 ∧
      4000 < maxTime ∧
      Scheduled rules "a" ⟨3000,2000,1,1⟩ 0 arrivals s trace [(4500,.text "y")] ∧
      Undisturbed arrivals trace 4000 ∧ s.now = 5000 ∧
      Expires ⟨3000,2000,1,1⟩ 0 arrivals 4000 s trace [(4500,.text "y")] := by
  intro arrivals
  let rules : Dispatcher.Rules := ⟨⟨⟨[]⟩,1⟩,""⟩
  let r : Registry := .empty
  have waited : Scheduled rules "a" ⟨3000,2000,1,1⟩ 0 arrivals { initial "a" ⟨3000,2000,1,1⟩ 0 with
      now := 1000 } _ arrivals :=
    .pass (r := r) 1000 .start rfl (by rintro _ ⟨⟩; decide) rfl
  have pong : Scheduled rules "a" ⟨3000,2000,1,1⟩ 0 arrivals { initial "a" ⟨3000,2000,1,1⟩ 0 with
      now := 1000, reader := .reading 4000 } _ _ :=
    .receive (r := r) ⟨1,0⟩ waited rfl rfl
  have text : Scheduled rules "a" ⟨3000,2000,1,1⟩ 0 arrivals { initial "a" ⟨3000,2000,1,1⟩ 0 with
      now := 3500, reader := .reading 4000, inbound := [.read "x" ⟨3,500000000⟩] } _ _ :=
    .receive (r := r) ⟨3,500000000⟩ (.pass (r := r) 2500 pong rfl
      (by rintro _ ⟨⟩; decide) rfl) rfl rfl
  have expired := Scheduled.prompt (r := r) (a := .readerExpires) (.pass (r := r) 500 text rfl
    (by rintro _ ⟨⟩; decide) rfl) rfl rfl
  have ended := Scheduled.prompt (r := r) (a := .readerEnds) (.prompt (r := r) (a := .readerEnds)
    (.prompt (r := r) (a := .readerEnds) expired rfl rfl) rfl rfl) rfl rfl
  have past := Scheduled.pass (r := r) 1000 ended rfl (by rintro _ ⟨⟩) rfl
  have ordered : Schedule.Ordered arrivals 0 := ⟨by decide,by decide⟩
  have undisturbed {trace : List Taken}
      (quiet : ∀ t ∈ trace, t.before.2.signalled = true → 4000 ≤ t.before.2.now) :
      Undisturbed arrivals trace 4000 := ⟨by decide,by decide,quiet⟩
  exact ⟨rules,_,_,ordered,rfl,by decide,past,undisturbed (by decide),rfl,
    expiresAfterLastPong ordered (by decide) past (undisturbed (by decide))⟩

theorem handlesNothing :
    let arrivals : Schedule := [(1,.text "x")]
    let l : Limits := ⟨maxTime,50000,1,1⟩
    ∃ rules s trace left, Schedule.Ordered arrivals 0 ∧
      Scheduled rules "a" l 0 arrivals s trace left ∧
      Undisturbed arrivals trace (arrivals.expiry l.readDeadline l.readDeadline) ∧
      ¬ Expires l 0 arrivals (arrivals.expiry l.readDeadline l.readDeadline) s trace left := by
  intro arrivals l
  let rules : Dispatcher.Rules := ⟨⟨⟨[]⟩,1⟩,""⟩
  let r : Registry := .empty
  have late : Scheduled rules "a" l 0 arrivals _ _ _ :=
    .pass (r := r) 2 .start rfl (by rintro _ ⟨⟩) rfl
  refine ⟨rules,_,_,_,⟨by decide,by decide⟩,late,⟨by decide,by decide,by decide⟩,fun expires => ?_⟩
  exact absurd (expires.handled.2 (1,.text "x") (by decide) (by decide)) (by decide)

end Querent.Session
