import Querent.Record.Slot

/-! Records read by name. A slot is filled by the one member that goes by one of its names; what the other
members are, and how they stand around it, does not matter. -/
namespace Querent.Record
variable {α β ρ σ : Type}

def given (names : List String) (ms : List (String × α)) : List α :=
  (ms.filter (names.contains ·.1)).map (·.2)

theorem givenCons (names : List String) (name : String) (v : α) (ms : List (String × α)) :
    given names ((name,v) :: ms) = if name ∈ names then v :: given names ms else given names ms := by
  simp only [given,List.filter_cons,List.contains_iff_mem]
  split <;> rfl

structure Apart (slots : List (Slot ρ)) : Prop where
  named : ∀ slot ∈ slots, slot.name ∈ slot.names
  alone : ∀ slot ∈ slots, ∀ other ∈ slots, ∀ name ∈ slot.names, name ∈ other.names →
    slot = other

section Slots
variable {slots : List (Slot ρ)} {slot other : Slot ρ} {name : String} {seen : List String}

theorem findNone (none : Slot.find? slots name = none) (member : slot ∈ slots) : name ∉ slot.names := by
  have passed := List.find?_eq_none.mp none slot member
  simpa [Slot.answersTo] using passed

theorem findSome (found : Slot.find? slots name = some slot) : slot ∈ slots ∧ name ∈ slot.names :=
  ⟨List.mem_of_find?_eq_some found,by simpa [Slot.answersTo] using List.find?_some found⟩

theorem Apart.sameName (apart : Apart slots) (member : slot ∈ slots) (member' : other ∈ slots)
    (same : slot.name = other.name) : slot = other :=
  apart.alone slot member other member' slot.name (apart.named slot member)
    (same ▸ apart.named other member')

theorem missingNone : Slot.missing? slots seen = none ↔
    ∀ slot ∈ slots, slot.required = true → slot.name ∈ seen := by
  rw [Slot.missing?,Option.map_eq_none_iff,List.find?_eq_none]
  simp

end Slots

section Members
variable {slots : List (Slot (Update α σ))} {slot : Slot (Update α σ)} {seen : List String}
  {before r : σ} {ms : List (String × α)}

theorem ofMembersNone {name : String} (none : Slot.find? slots name = none) (v : α) :
    ofMembers slots seen before ((name,v) :: ms) = ofMembers slots seen before ms := by
  rw [ofMembers,none]

theorem ofMembersSome {name : String} {v : α} (found : Slot.find? slots name = some slot) :
    ofMembers slots seen before ((name,v) :: ms) = .ok r ↔ slot.name ∉ seen ∧
      ∃ update, slot.read v = .ok update ∧
        ofMembers slots (slot.name :: seen) (update before) ms = .ok r := by
  rw [ofMembers,found]
  dsimp only
  by_cases old : slot.name ∈ seen
  · simp [old]
  · cases slot.read v <;> simp [old]

structure Sets (slots : List (Slot (Update α σ))) (slot : Slot (Update α σ)) (field : σ → β)
    (read : α → Except Fault β) : Prop where
  own : ∀ {v update}, slot.read v = .ok update → ∃ x, read v = .ok x ∧ ∀ r, field (update r) = x
  others : ∀ other ∈ slots, other.name ≠ slot.name → ∀ {v update}, other.read v = .ok update →
    ∀ r, field (update r) = field r

def Tells (slot : Slot (Update α σ)) (field : σ → β) (read : α → Except Fault β)
    (seen : List String) (ms : List (String × α)) (before r : σ) : Prop :=
  given slot.names ms = [] ∧ (slot.required = true → slot.name ∈ seen) ∧ field r = field before ∨
    slot.name ∉ seen ∧ ∃ v, given slot.names ms = [v] ∧ read v = .ok (field r)

theorem tellsOfMembers {field : σ → β} {read : α → Except Fault β} (apart : Apart slots)
    (member : slot ∈ slots) (sets : Sets slots slot field read)
    (ok : ofMembers slots seen before ms = .ok r) : Tells slot field read seen ms before r := by
  induction ms generalizing seen before with
  | nil =>
    rw [ofMembers] at ok
    split at ok
    · contradiction
    · rename_i none
      cases ok
      exact .inl ⟨rfl,missingNone.mp none slot member,rfl⟩
  | cons m ms ih =>
    obtain ⟨name,v⟩ := m
    rw [Tells,givenCons]
    cases found : Slot.find? slots name with
    | none =>
      rw [ofMembersNone found] at ok
      rw [if_neg (findNone found member)]
      exact ih ok
    | some here =>
      obtain ⟨new,update,took,ok⟩ := (ofMembersSome found).mp ok
      obtain ⟨known,names⟩ := findSome found
      by_cases own : name ∈ slot.names
      · obtain rfl := apart.alone slot member here known name own names
        obtain ⟨x,read_,set⟩ := sets.own took
        rcases ih ok with ⟨none,-,same⟩ | ⟨later,-⟩
        · refine .inr ⟨new,v,?_,?_⟩
          · rw [if_pos own,none]
          · rw [read_,same,set]
        · exact absurd List.mem_cons_self later
      · have other : here.name ≠ slot.name := fun same =>
          own (apart.sameName known member same ▸ names)
        rw [if_neg own]
        rcases ih ok with ⟨none,required,same⟩ | ⟨later,told⟩
        · refine .inl ⟨none,fun needed => ?_,same.trans (sets.others here known other took before)⟩
          exact (List.mem_cons.mp (required needed)).resolve_left (Ne.symm other)
        · exact .inr ⟨fun old => later (List.mem_cons_of_mem _ old),told⟩

def Fills (slot : Slot (Update α σ)) (seen : List String) (ms : List (String × α)) : Prop :=
  given slot.names ms = [] ∧ (slot.required = true → slot.name ∈ seen) ∨
    slot.name ∉ seen ∧ ∃ v update, given slot.names ms = [v] ∧ slot.read v = .ok update

theorem existsOfFills (apart : Apart slots) (before : σ) (fills : ∀ slot ∈ slots, Fills slot seen ms) :
    ∃ r, ofMembers slots seen before ms = .ok r := by
  induction ms generalizing seen before with
  | nil =>
    have none : Slot.missing? slots seen = none := by
      refine missingNone.mpr fun slot member => ?_
      rcases fills slot member with ⟨-,seen⟩ | ⟨-,_,_,some_,-⟩
      · exact seen
      · contradiction
    exact ⟨before,by rw [ofMembers,none]⟩
  | cons m ms ih =>
    obtain ⟨name,v⟩ := m
    cases found : Slot.find? slots name with
    | none =>
      rw [ofMembersNone found]
      refine ih before fun slot member => ?_
      have same := fills slot member
      rwa [Fills,givenCons,if_neg (findNone found member)] at same
    | some here =>
      obtain ⟨known,names⟩ := findSome found
      have now := fills here known
      rw [Fills,givenCons,if_pos names] at now
      obtain ⟨new,w,update,alone,took⟩ := now.resolve_left fun absent => absurd absent.1 (by simp)
      obtain ⟨rfl,none⟩ := List.cons.inj alone
      obtain ⟨r,ok⟩ : ∃ r, ofMembers slots (here.name :: seen) (update before) ms = .ok r := by
        refine ih _ fun slot member => ?_
        by_cases own : name ∈ slot.names
        · obtain rfl := apart.alone slot member here known name own names
          exact .inl ⟨none,fun _ => List.mem_cons_self⟩
        · have other : slot.name ≠ here.name := fun same =>
            own (apart.sameName member known same ▸ names)
          have later := fills slot member
          rw [Fills,givenCons,if_neg own] at later
          refine later.imp (fun absent => ⟨absent.1,fun needed => ?_⟩) fun present => ⟨?_,present.2⟩
          · exact List.mem_cons_of_mem _ (absent.2 needed)
          · simpa [other] using present.1
      exact ⟨r,(ofMembersSome found).mpr ⟨new,update,took,ok⟩⟩

theorem fillsOfMembers (apart : Apart slots) (ok : ofMembers slots seen before ms = .ok r)
    (member : slot ∈ slots) : Fills slot seen ms := by
  have sets : Sets slots slot (fun _ => ()) fun v => (slot.read v).map fun _ => () :=
    ⟨fun {_ update} took => ⟨(),by rw [took]; rfl,fun _ => rfl⟩,fun _ _ _ _ _ _ _ => rfl⟩
  rcases tellsOfMembers apart member sets ok with ⟨none,seen,-⟩ | ⟨new,v,alone,took⟩
  · exact .inl ⟨none,seen⟩
  · cases read : slot.read v with
    | error fault => simp [read,Except.map] at took
    | ok update => exact .inr ⟨new,v,update,alone,read⟩

theorem ofMembersAlone {read : α → Except Fault σ} (apart : Apart slots) (member : slot ∈ slots)
    (sets : Sets slots slot id read) : ofMembers slots [] before ms = .ok r ↔
      (∀ other ∈ slots, Fills other [] ms) ∧
        (given slot.names ms = [] ∧ r = before ∨ ∃ v, given slot.names ms = [v] ∧ read v = .ok r) := by
  have tells {r : σ} (ok : ofMembers slots [] before ms = .ok r) :
      given slot.names ms = [] ∧ r = before ∨ ∃ v, given slot.names ms = [v] ∧ read v = .ok r :=
    (tellsOfMembers apart member sets ok).imp (fun told => ⟨told.1,told.2.2⟩) fun told => told.2
  constructor
  · exact fun ok => ⟨fun _ => fillsOfMembers apart ok,tells ok⟩
  · rintro ⟨fills,told⟩
    obtain ⟨r',ok⟩ := existsOfFills apart before fills
    have same : r' = r := by
      rcases tells ok, told with ⟨⟨_,rfl⟩ | ⟨v,alone,read⟩,⟨none,rfl⟩ | ⟨w,alone',read'⟩⟩
      · rfl
      · simp_all
      · simp_all
      · obtain ⟨rfl,-⟩ := List.cons.inj (alone.symm.trans alone')
        exact Except.ok.inj (read.symm.trans read')
    exact same ▸ ok

end Members
end Querent.Record
