import Querent.Proofs.Session.Order

/-! What the reader does with what the transport brings. Only a frame of data touches the queues, and of
the rest of a session nothing but the reader itself can change. -/
namespace Querent.Session

def allowsBusy (s : Session) : Prop := s.writer ≠ .finished ∧ s.outbound.length < s.limits.outbound

instance (s : Session) : Decidable s.allowsBusy := inferInstanceAs (Decidable (_ ∧ _))

inductive Reception (s : Session) (at_ : Instant) : List Frame → Session → Prop where
  | ignored : Reception s at_ [] s
  | renewed (counted : s.now + s.limits.readDeadline < maxTime) :
      Reception s at_ [] { s with reader := .reading (s.now + s.limits.readDeadline) }
  | stopped (uncounted : ¬ s.now + s.limits.readDeadline < maxTime) :
      Reception s at_ [] { s with reader := .finished }
  | ended : Reception s at_ [] { s with reader := .ending .claim }
  | lost {f} (finished : s.dispatching = .finished) :
      Reception s at_ [f] { s with reader := .ending .claim }
  | queued {f} (serving : s.dispatching ≠ .finished)
      (room : s.inbound.length < s.limits.inbound) :
      Reception s at_ [f] { s with inbound := s.inbound ++ [f] }
  | dropped {f} (serving : s.dispatching ≠ .finished)
      (full : s.limits.inbound ≤ s.inbound.length) :
      Reception s at_ [f] { s with
        outbound := s.outbound ++ if s.allowsBusy then [busy at_] else [] }

theorem receptionOfFrame (s : Session) (at_ : Instant) (f : Frame) :
    Reception s at_ [f] (s.enqueue at_ f) := by
  unfold enqueue
  split
  · exact .lost (by assumption)
  · rename_i serving
    split
    · exact .queued serving (by assumption)
    · rename_i full
      have told := @Reception.dropped s at_ f serving (Nat.le_of_not_lt full)
      split
      · rename_i allowed
        rw [if_pos (show s.allowsBusy from allowed)] at told
        exact told
      · rename_i forbidden
        rw [if_neg (show ¬ s.allowsBusy from forbidden),List.append_nil] at told
        exact told

theorem receptionOf (s : Session) (at_ : Instant) (e : Incoming) :
    Reception s at_ (e.frames at_) (s.receive at_ e) := by
  cases e with
  | text t => exact receptionOfFrame s at_ _
  | binary octets => exact receptionOfFrame s at_ _
  | ping => exact .ignored
  | pong =>
    by_cases counted : s.now + s.limits.readDeadline < maxTime
    · rw [receive,Limits.awaitPong,if_pos counted]
      exact .renewed counted
    · rw [receive,Limits.awaitPong,if_neg counted]
      exact .stopped counted
  | close | failed | ended => exact .ended

theorem receiveFrame (s : Session) (at_ : Instant) (e : Incoming) :
    ∃ reader inbound outbound, s.receive at_ e = { s with reader, inbound, outbound } := by
  have received := receptionOf s at_ e
  generalize e.frames at_ = frames,s.receive at_ e = s' at received
  cases received with
  | ignored => exact ⟨s.reader,s.inbound,s.outbound,rfl⟩
  | _ => exact ⟨_,_,_,rfl⟩

theorem receiveReader {s : Session} {deadline : Nat} (reading : s.reader = .reading deadline)
    (at_ : Instant) (e : Incoming) :
    (∃ late, (s.receive at_ e).reader = .reading late) ∨ (s.receive at_ e).reader = .ending .claim ∨
      e = .pong ∧ ¬ s.now + s.limits.readDeadline < maxTime ∧ (s.receive at_ e).reader = .finished := by
  have frame (f : Frame) : (∃ late, (s.enqueue at_ f).reader = .reading late) ∨
      (s.enqueue at_ f).reader = .ending .claim := by
    have received := receptionOfFrame s at_ f
    generalize s.enqueue at_ f = s' at received
    cases received with
    | lost => exact .inr rfl
    | queued | dropped => exact .inl ⟨deadline,reading⟩
  cases e with
  | text t => exact (frame _).imp_right .inl
  | binary octets => exact (frame _).imp_right .inl
  | ping => exact .inl ⟨deadline,reading⟩
  | pong =>
    by_cases counted : s.now + s.limits.readDeadline < maxTime
    · exact .inl ⟨_,if_pos counted⟩
    · exact .inr (.inr ⟨rfl,counted,if_neg counted⟩)
  | close | failed | ended => exact .inr (.inl rfl)

end Querent.Session
