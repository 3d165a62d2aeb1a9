import Querent.Proofs.Record.Members
import Querent.Proofs.Toml.Path
import Querent.Toml.Shape

/-! Records read from tables, and records within them. What a record is follows from what stands where its
settings are: a setting that is there is read, and one that is not is as in the record from which the
reading starts. -/
namespace Querent.Toml
open Record (Apart Fills Sets Slot Update given)
variable {σ τ : Type}

structure RecordField (σ : Type) where
  {α β : Type}
  name : String
  read : Toml → Except Record.Fault α
  set : α → σ → σ
  get : σ → β
  kept : α → β

def RecordField.slot (f : RecordField σ) : Slot (Update Toml σ) := Toml.slot f.name f.read f.set

structure Setting (σ : Type) where
  {β : Type}
  path : List String
  name : String
  get : σ → β
  read : Toml → Except Record.Fault β

namespace Setting

def at? (s : Setting σ) (ms : Members) : Option Toml := lookupAt s.path s.name ms

def Told (s : Setting σ) (ms : Members) (base r : σ) : Prop :=
  match s.at? ms with
  | none => s.get r = s.get base
  | some v => s.read v = .ok (s.get r)

def Accepted (s : Setting σ) (ms : Members) : Prop := ∀ v, s.at? ms = some v → ∃ x, s.read v = .ok x

def within (name : String) (get : σ → τ) (s : Setting τ) : Setting σ :=
  ⟨name :: s.path,s.name,fun r => s.get (get r),s.read⟩

end Setting

def RecordField.setting (f : RecordField σ) : Setting σ := ⟨[],f.name,f.get,fun v => (f.read v).map f.kept⟩

structure RecordPart (σ : Type) where
  field : RecordField σ
  settings : List (Setting σ)

namespace RecordPart

def leaf (f : RecordField σ) : RecordPart σ := ⟨f,[f.setting]⟩

def record (name : String) (read : Toml → Except Record.Fault τ) (set : τ → σ → σ) (get : σ → τ)
    (settings : List (Setting τ)) : RecordPart σ :=
  ⟨⟨name,read,set,get,id⟩,settings.map (.within name get)⟩

end RecordPart

structure Fields (slots : List (Slot (Update Toml σ))) (fields : List (RecordField σ)) : Prop where
  slots : slots = fields.map RecordField.slot
  names : (fields.map RecordField.name).Nodup
  own : ∀ f ∈ fields, ∀ x r, f.get (f.set x r) = f.kept x
  others : ∀ f ∈ fields, ∀ g ∈ fields, g.name ≠ f.name → ∀ x r, f.get (g.set x r) = f.get r
  ext : ∀ r r', (∀ f ∈ fields, f.get r = f.get r') → r = r'

section Fields
variable {slots : List (Slot (Update Toml σ))} {fields : List (RecordField σ)} {f g : RecordField σ}
  {ms : Members} {base r : σ}

theorem slotReads {v : Toml} {update : σ → σ} :
    f.slot.read v = .ok update ↔ ∃ x, f.read v = .ok x ∧ update = f.set x := by
  rw [RecordField.slot,slot]
  dsimp only
  cases f.read v <;> simp [Except.map,eq_comm]

theorem givenOnce (once : (ms.map (·.1)).Nodup) (name : String) :
    given [name] ms = (ms.lookup name).toList := by
  induction ms with
  | nil => rfl
  | cons m rest ih =>
    obtain ⟨absent,once⟩ := List.nodup_cons.mp once
    rw [Record.givenCons,Dictionary.lookupCons,ih once]
    by_cases here : m.1 = name
    · have later : rest.lookup name = none := by
        rw [List.lookup_eq_none_iff]
        intro other member
        simpa using fun same : name = other.1 => absent (List.mem_map.mpr ⟨other,member,(here.trans same).symm⟩)
      rw [if_pos (by simp [here]),if_pos here.symm,later]
      rfl
    · rw [if_neg (by simp [here]),if_neg (Ne.symm here)]

theorem Fields.apart (fs : Fields slots fields) : Apart slots := by
  rw [fs.slots]
  refine ⟨?_,?_⟩
  · intro slot member
    obtain ⟨f,-,rfl⟩ := List.mem_map.mp member
    exact List.mem_cons_self
  · intro slot member other member' name own own'
    obtain ⟨f,field,rfl⟩ := List.mem_map.mp member
    obtain ⟨g,field',rfl⟩ := List.mem_map.mp member'
    have same : f.name = g.name := (List.mem_singleton.mp own).symm.trans (List.mem_singleton.mp own')
    rw [List.inj_on_of_nodup_map fs.names field field' same]

theorem Fields.sets (fs : Fields slots fields) (member : f ∈ fields) :
    Sets slots f.slot f.get fun v => (f.read v).map f.kept := by
  refine ⟨fun {v update} took => ?_,fun other listed different {v update} took r => ?_⟩
  · obtain ⟨x,read,rfl⟩ := slotReads.mp took
    exact ⟨f.kept x,by rw [read]; rfl,fs.own f member x⟩
  · rw [fs.slots] at listed
    obtain ⟨g,field,rfl⟩ := List.mem_map.mp listed
    obtain ⟨x,-,rfl⟩ := slotReads.mp took
    exact fs.others f member g field different x r

theorem Fields.told (fs : Fields slots fields) (once : (ms.map (·.1)).Nodup) (member : f ∈ fields)
    (ok : Record.ofMembers slots [] base ms = .ok r) : f.setting.Told ms base r := by
  have listed : f.slot ∈ slots := fs.slots ▸ List.mem_map.mpr ⟨f,member,rfl⟩
  have given : given f.slot.names ms = (ms.lookup f.name).toList := givenOnce once f.name
  have told := Record.tellsOfMembers fs.apart listed (fs.sets member) ok
  rw [Record.Tells,given] at told
  rw [Setting.Told,Setting.at?,RecordField.setting,lookupAt]
  cases found : ms.lookup f.name with
  | none =>
    rw [found] at told
    rcases told with ⟨-,-,same⟩ | ⟨-,v,absurd_,-⟩
    · exact same
    · contradiction
  | some v =>
    rw [found] at told
    rcases told with ⟨absurd_,-⟩ | ⟨-,w,alone,read⟩
    · contradiction
    · obtain ⟨rfl,-⟩ := List.cons.inj alone
      exact read

theorem Fields.accepts (fs : Fields slots fields) (once : (ms.map (·.1)).Nodup) (base : σ)
    (readable : ∀ f ∈ fields, ∀ v, ms.lookup f.name = some v → ∃ x, f.read v = .ok x) :
    ∃ r, Record.ofMembers slots [] base ms = .ok r := by
  refine Record.existsOfFills fs.apart base fun slot listed => ?_
  rw [fs.slots] at listed
  obtain ⟨f,member,rfl⟩ := List.mem_map.mp listed
  have given : given f.slot.names ms = (ms.lookup f.name).toList := givenOnce once f.name
  rw [Fills,given]
  cases found : ms.lookup f.name with
  | none => exact .inl ⟨rfl,fun required => absurd required Bool.false_ne_true⟩
  | some v =>
    obtain ⟨x,read⟩ := readable f member v found
    exact .inr ⟨List.not_mem_nil,v,f.set x,rfl,slotReads.mpr ⟨x,read,rfl⟩⟩

end Fields

structure Settles (read : Toml → Except Record.Fault σ) (base : σ) (settings : List (Setting σ)) : Prop where
  filled : settings ≠ []
  ext : ∀ r r', (∀ s ∈ settings, s.get r = s.get r') → r = r'
  told : ∀ ms r, Proper (.table ms) → (∀ s ∈ settings, Tabular s.path ms) → read (.table ms) = .ok r →
    ∀ s ∈ settings, s.Told ms base r
  accepts : ∀ ms, Proper (.table ms) → (∀ s ∈ settings, Tabular s.path ms) →
    (∀ s ∈ settings, s.Accepted ms) → ∃ r, read (.table ms) = .ok r

structure Expands (base : σ) (p : RecordPart σ) : Prop where
  filled : p.settings ≠ []
  ext : ∀ r r', (∀ s ∈ p.settings, s.get r = s.get r') → p.field.get r = p.field.get r'
  told : ∀ ms r, Proper (.table ms) → (∀ s ∈ p.settings, Tabular s.path ms) →
    p.field.setting.Told ms base r → ∀ s ∈ p.settings, s.Told ms base r
  accepts : ∀ ms, Proper (.table ms) → (∀ s ∈ p.settings, Tabular s.path ms) →
    (∀ s ∈ p.settings, s.Accepted ms) → ∀ v, ms.lookup p.field.name = some v →
      ∃ x, p.field.read v = .ok x

theorem expandsLeaf (base : σ) (f : RecordField σ) : Expands base (.leaf f) where
  filled := List.cons_ne_nil _ _
  ext r r' same := same _ List.mem_cons_self
  told ms r _ _ told s member := by
    obtain rfl := List.mem_singleton.mp member
    exact told
  accepts ms _ _ accepted v found := by
    obtain ⟨x,read⟩ := accepted _ List.mem_cons_self v found
    cases ok : f.read v with
    | error fault => simp [RecordField.setting,ok,Except.map] at read
    | ok x => exact ⟨x,ok⟩

section Within
variable {name : String} {get : σ → τ} {s : Setting τ} {settings : List (Setting τ)} {ms inner : Members}

theorem withinNone (absent : ms.lookup name = none) : (s.within name get).at? ms = none := by
  simp only [Setting.at?,Setting.within,lookupAt,absent]

theorem withinSome (found : ms.lookup name = some (.table inner)) :
    (s.within name get).at? ms = s.at? inner := by
  simp only [Setting.at?,Setting.within,lookupAt,found]

theorem withinTable (filled : settings ≠ [])
    (tabular : ∀ s ∈ settings.map (Setting.within name get), Tabular s.path ms) {v : Toml}
    (found : ms.lookup name = some v) :
    ∃ inner, v = .table inner ∧ ∀ s ∈ settings, Tabular s.path inner := by
  obtain ⟨first,listed⟩ := List.exists_mem_of_ne_nil settings filled
  obtain ⟨inner,rfl,-⟩ := tabular _ (List.mem_map.mpr ⟨first,listed,rfl⟩) v found
  refine ⟨inner,rfl,fun s member => ?_⟩
  obtain ⟨_,same,further⟩ := tabular _ (List.mem_map.mpr ⟨s,member,rfl⟩) _ found
  cases same
  exact further

end Within

theorem expandsRecord {read : Toml → Except Record.Fault τ} {inner : τ} {settings : List (Setting τ)}
    (settles : Settles read inner settings) {base : σ} {get : σ → τ} (same : get base = inner)
    (name : String) (set : τ → σ → σ) : Expands base (.record name read set get settings) where
  filled := by simpa [RecordPart.record] using settles.filled
  ext r r' agree := settles.ext (get r) (get r') fun s member =>
    agree _ (List.mem_map.mpr ⟨s,member,rfl⟩)
  told ms r proper tabular told _ listed := by
    obtain ⟨s,member,rfl⟩ := List.mem_map.mp listed
    cases found : ms.lookup name with
    | none =>
      have kept : get r = get base := by
        simpa [Setting.Told,Setting.at?,RecordField.setting,RecordPart.record,lookupAt,found] using told
      rw [Setting.Told,withinNone found]
      exact congrArg s.get kept
    | some v =>
      obtain ⟨ms',rfl,further⟩ := withinTable settles.filled tabular found
      have ok : read (.table ms') = .ok (get r) := by
        simpa [Setting.Told,Setting.at?,RecordField.setting,RecordPart.record,lookupAt,found] using told
      have inside := settles.told ms' (get r) (proper.found found) further ok s member
      rw [Setting.Told] at inside
      rw [Setting.Told,withinSome found]
      cases there : s.at? ms' with
      | none =>
        rw [there,← same] at inside
        exact inside
      | some w =>
        rw [there] at inside
        exact inside
  accepts ms proper tabular accepted v found := by
    obtain ⟨ms',rfl,further⟩ := withinTable settles.filled tabular found
    refine settles.accepts ms' (proper.found found) further fun s member w there => ?_
    exact accepted _ (List.mem_map.mpr ⟨s,member,rfl⟩) w ((withinSome found).trans there)

section Parts
variable {slots : List (Slot (Update Toml σ))} {parts : List (RecordPart σ)} {base : σ}

theorem settlesParts (fields : Fields slots (parts.map (·.field))) (filled : parts ≠ [])
    (expands : ∀ p ∈ parts, Expands base p) (name : String) :
    Settles (asRecord name slots base) base (parts.flatMap (·.settings)) where
  filled := by
    obtain ⟨p,member⟩ := List.exists_mem_of_ne_nil parts filled
    intro none
    exact (expands p member).filled (List.flatMap_eq_nil_iff.mp none p member)
  ext r r' agree := by
    refine fields.ext r r' fun f listed => ?_
    obtain ⟨p,member,rfl⟩ := List.mem_map.mp listed
    exact (expands p member).ext r r' fun s own => agree s (List.mem_flatMap.mpr ⟨p,member,own⟩)
  told ms r proper tabular ok s member := by
    obtain ⟨p,member,own⟩ := List.mem_flatMap.mp member
    have within : ∀ s ∈ p.settings, Tabular s.path ms := fun s own =>
      tabular s (List.mem_flatMap.mpr ⟨p,member,own⟩)
    exact (expands p member).told ms r proper within
      (fields.told proper.names (List.mem_map.mpr ⟨p,member,rfl⟩) ok) s own
  accepts ms proper tabular accepted := by
    refine fields.accepts proper.names base fun f listed v found => ?_
    obtain ⟨p,member,rfl⟩ := List.mem_map.mp listed
    exact (expands p member).accepts ms proper
      (fun s own => tabular s (List.mem_flatMap.mpr ⟨p,member,own⟩))
      (fun s own => accepted s (List.mem_flatMap.mpr ⟨p,member,own⟩)) v found

theorem settlesFields {fields : List (RecordField σ)} (fs : Fields slots fields) (filled : fields ≠ [])
    (base : σ) (name : String) :
    Settles (asRecord name slots base) base (fields.map RecordField.setting) := by
  have whole : (fields.map RecordPart.leaf).map (·.field) = fields := by
    rw [List.map_map]
    exact List.map_id fields
  have leaves : (fields.map RecordPart.leaf).flatMap (·.settings) = fields.map RecordField.setting := by
    rw [List.flatMap_map]
    exact List.map_eq_flatMap.symm
  rw [← leaves]
  refine settlesParts (whole.symm ▸ fs) (by simpa using filled) (fun p member => ?_) name
  obtain ⟨f,-,rfl⟩ := List.mem_map.mp member
  exact expandsLeaf base f

end Parts

section Settles
variable {read : Toml → Except Record.Fault σ} {base r : σ} {settings : List (Setting σ)} {ms : Members}

theorem Settles.readIff (settles : Settles read base settings) (proper : Proper (.table ms))
    (tabular : ∀ s ∈ settings, Tabular s.path ms) :
    read (.table ms) = .ok r ↔ ∀ s ∈ settings, s.Told ms base r := by
  refine ⟨settles.told ms r proper tabular,fun told => ?_⟩
  have accepted : ∀ s ∈ settings, s.Accepted ms := fun s member v found => by
    have here := told s member
    rw [Setting.Told,found] at here
    exact ⟨s.get r,here⟩
  obtain ⟨r',ok⟩ := settles.accepts ms proper tabular accepted
  have same : r' = r := by
    refine settles.ext r' r fun s member => ?_
    have here := told s member
    have there := settles.told ms r' proper tabular ok s member
    rw [Setting.Told] at here there
    cases found : s.at? ms with
    | none =>
      rw [found] at here there
      exact there.trans here.symm
    | some v =>
      rw [found] at here there
      exact Except.ok.inj (there.symm.trans here)
  rw [← same]
  exact ok

end Settles

end Querent.Toml
