import Querent.Proofs.Message.Decoding
import Querent.Proofs.Record.Members

/-! Which payloads are requests. Each field of a request is told by one member that goes by one of the names
of the field, and other members do not count. What a request is written as is read as that request. -/
namespace Querent
open Json (Faithful)
open Record (Apart Fills Sets Slot Update given)

theorem Json.asTextIff {j : Json} {s : String} : Json.asText j = .ok s ↔ j = .text s := by
  cases j <;> simp [Json.asText,Json.wrongKind]

theorem Json.asOptionalIff {j : Json} {s : Option String} : Json.asOptional Json.asText j = .ok s ↔
    j = .null ∧ s = none ∨ ∃ text, j = .text text ∧ s = some text := by
  cases j <;> simp [Json.asOptional,Json.asText,Json.wrongKind,Except.map,eq_comm]

namespace Record
variable {α β σ : Type} {slots : List (Slot (Update Json σ))} {names : List String} {required : Bool}
  {read : Json → Except Fault α} {update : α → σ → σ} {before r : σ} {ms : List (String × Json)}

theorem slotReads {v : Json} {took : σ → σ} :
    (slot names required read update).read v = .ok took ↔ ∃ x, read v = .ok x ∧ took = update x := by
  rw [slot]
  dsimp only
  cases read v <;> simp [Except.map,eq_comm]

def Keeps (field : σ → β) (slot : Slot (Update Json σ)) : Prop :=
  ∀ v took, slot.read v = .ok took → ∀ r, field (took r) = field r

theorem keepsSlot {field : σ → β} (keeps : ∀ x r, field (update x r) = field r) :
    Keeps field (slot names required read update) := by
  intro v took ok
  obtain ⟨x,-,rfl⟩ := slotReads.mp ok
  exact keeps x

theorem tellsSlot {field : σ → α} (apart : Apart slots)
    (member : slot names required read update ∈ slots) (set : ∀ x r, field (update x r) = x)
    (others : ∀ other ∈ slots, other.name ≠ names.headD "" → Keeps field other)
    (ok : ofMembers slots [] before ms = .ok r) :
    given names ms = [] ∧ required = false ∧ field r = field before ∨
      ∃ v, given names ms = [v] ∧ read v = .ok (field r) := by
  have sets : Sets slots (slot names required read update) field read := by
    refine ⟨fun {v took} ok => ?_,fun other member different _ _ => others other member different _ _⟩
    obtain ⟨x,read,rfl⟩ := slotReads.mp ok
    exact ⟨x,read,set x⟩
  rcases tellsOfMembers apart member sets ok with ⟨none,needed,same⟩ | ⟨-,told⟩
  · refine .inl ⟨none,?_,same⟩
    exact Bool.eq_false_iff.mpr fun required => List.not_mem_nil (needed required)
  · exact .inr told

theorem toldText {field : σ → String} {update : String → σ → σ} (apart : Apart slots)
    (member : slot names true Json.asText update ∈ slots) (set : ∀ x r, field (update x r) = x)
    (others : ∀ other ∈ slots, other.name ≠ names.headD "" → Keeps field other)
    (ok : ofMembers slots [] before ms = .ok r) : given names ms = [.text (field r)] := by
  rcases tellsSlot apart member set others ok with ⟨-,optional,-⟩ | ⟨v,alone,read⟩
  · contradiction
  · exact alone.trans (by rw [Json.asTextIff.mp read])

theorem fillsValue {v : Json} {x : α} (alone : given names ms = [v]) (ok : read v = .ok x) :
    Fills (slot names required read update) [] ms :=
  .inr ⟨List.not_mem_nil,v,update x,alone,slotReads.mpr ⟨x,ok,rfl⟩⟩

end Record

namespace AttachRequest
variable {ms : List (String × Json)} {r r' : AttachRequest}

def fieldNames : List (List String) := [["engine","db_type"], ["db","db_name"], ["url","db_url"]]

structure Told (ms : List (String × Json)) (r : AttachRequest) : Prop where
  engine : given ["engine","db_type"] ms = [.text r.engine]
  database : given ["db","db_name"] ms = [.text r.database]
  url : given ["url","db_url"] ms = [.text r.url]

theorem slotsApart : Apart slots where
  named := by simp [slots,Record.slot,Slot.name]
  alone := by simp [slots,Record.slot]

theorem toldOfJson (ok : ofJson (.object ms) = .ok r) : Told ms r := by
  have own {field : AttachRequest → String} {slot : Slot (Update Json AttachRequest)} {name : String}
      (named : slot.name = name) : slot.name ≠ name → Record.Keeps field slot :=
    fun other => absurd named other
  have other {field : AttachRequest → String} {names : List String} {name : String}
      {update : String → AttachRequest → AttachRequest}
      (keeps : ∀ x r, field (update x r) = field r) : names.headD "" ≠ name →
        Record.Keeps field (Record.slot names true Json.asText update) :=
    fun _ => Record.keepsSlot keeps
  refine ⟨?_,?_,?_⟩
  · refine Record.toldText slotsApart (.head _) (fun _ _ => rfl) ?_ ok
    simp only [slots,List.forall_mem_cons]
    exact ⟨own rfl,other fun _ _ => rfl,other fun _ _ => rfl,nofun⟩
  · refine Record.toldText slotsApart (.tail _ (.head _)) (fun _ _ => rfl) ?_ ok
    simp only [slots,List.forall_mem_cons]
    exact ⟨other fun _ _ => rfl,own rfl,other fun _ _ => rfl,nofun⟩
  · refine Record.toldText slotsApart (.tail _ (.tail _ (.head _))) (fun _ _ => rfl) ?_ ok
    simp only [slots,List.forall_mem_cons]
    exact ⟨other fun _ _ => rfl,other fun _ _ => rfl,own rfl,nofun⟩

theorem toldUnique (told : Told ms r) (told' : Told ms r') : r = r' := by
  obtain ⟨engine,database,url⟩ := r
  obtain ⟨engine',database',url'⟩ := r'
  have first := told.engine.symm.trans told'.engine
  have second := told.database.symm.trans told'.database
  have third := told.url.symm.trans told'.url
  simp_all

theorem ofJsonIff : ofJson (.object ms) = .ok r ↔ Told ms r := by
  refine ⟨toldOfJson,fun told => ?_⟩
  have fills : ∀ slot ∈ slots, Fills slot [] ms := by
    simp only [slots,List.forall_mem_cons]
    exact ⟨Record.fillsValue told.engine rfl,Record.fillsValue told.database rfl,
      Record.fillsValue told.url rfl,nofun⟩
  obtain ⟨r',ok⟩ := Record.existsOfFills slotsApart ⟨"","",""⟩ fills
  rw [toldUnique told (toldOfJson ok)]
  exact ok

theorem toldAgain (r : AttachRequest) : ofJson r.toJson = .ok r :=
  ofJsonIff.mpr ⟨rfl,rfl,rfl⟩

end AttachRequest

namespace AskRequest
variable {ms : List (String × Json)} {r r' : AskRequest}

structure Told (ms : List (String × Json)) (r : AskRequest) : Prop where
  question : given ["question"] ms = [.text r.question]
  backend : match r.backend with
    | none => given ["backend"] ms = [] ∨ given ["backend"] ms = [.null]
    | some backend => given ["backend"] ms = [.text backend]

theorem slotsApart : Apart slots where
  named := by simp [slots,Record.slot,Slot.name]
  alone := by simp [slots,Record.slot]

theorem backendOfJson (ok : ofJson (.object ms) = .ok r) :
    given ["backend"] ms = [] ∧ r.backend = none ∨
      ∃ v, given ["backend"] ms = [v] ∧ Json.asOptional Json.asText v = .ok r.backend := by
  have others : ∀ other ∈ slots, other.name ≠ "backend" → Record.Keeps AskRequest.backend other := by
    simp only [slots,List.forall_mem_cons]
    exact ⟨fun _ => Record.keepsSlot fun _ _ => rfl,fun other => absurd rfl other,nofun⟩
  refine (Record.tellsSlot slotsApart (.tail _ (.head _)) (fun _ _ => rfl) others ok).imp_left ?_
  rintro ⟨absent,-,same⟩
  exact ⟨absent,same⟩

theorem toldOfJson (ok : ofJson (.object ms) = .ok r) : Told ms r := by
  refine ⟨?_,?_⟩
  · refine Record.toldText slotsApart (.head _) (fun _ _ => rfl) ?_ ok
    simp only [slots,List.forall_mem_cons]
    exact ⟨fun other => absurd rfl other,fun _ => Record.keepsSlot fun _ _ => rfl,nofun⟩
  · rcases backendOfJson ok with ⟨absent,none⟩ | ⟨v,alone,read⟩
    · rw [none]
      exact .inl absent
    · rcases Json.asOptionalIff.mp read with ⟨rfl,none⟩ | ⟨backend,rfl,some_⟩
      · rw [none]
        exact .inr alone
      · rw [some_]
        exact alone

theorem toldUnique (told : Told ms r) (told' : Told ms r') : r = r' := by
  obtain ⟨question,backend⟩ := r
  obtain ⟨question',backend'⟩ := r'
  obtain rfl : question = question' := by
    have same := told.question.symm.trans told'.question
    simpa using same
  have one := told.backend
  have other := told'.backend
  cases backend <;> cases backend' <;> simp_all

theorem fillsBackend (told : Told ms r) {update : Option String → AskRequest → AskRequest} :
    Fills (Record.slot ["backend"] false (Json.asOptional Json.asText) update) [] ms := by
  obtain ⟨question,backend⟩ := r
  cases backend with
  | none =>
    rcases told.backend with absent | null
    · exact .inl ⟨absent,nofun⟩
    · exact Record.fillsValue null rfl
  | some backend => exact Record.fillsValue told.backend rfl

theorem ofJsonIff : ofJson (.object ms) = .ok r ↔ Told ms r := by
  refine ⟨toldOfJson,fun told => ?_⟩
  have fills : ∀ slot ∈ slots, Fills slot [] ms := by
    simp only [slots,List.forall_mem_cons]
    exact ⟨Record.fillsValue told.question rfl,fillsBackend told,nofun⟩
  obtain ⟨r',ok⟩ := Record.existsOfFills slotsApart ⟨"",none⟩ fills
  rw [toldUnique told (toldOfJson ok)]
  exact ok

theorem toldAgain (r : AskRequest) : ofJson r.toJson = .ok r := by
  obtain ⟨question,backend⟩ := r
  cases backend with
  | none => exact ofJsonIff.mpr ⟨rfl,.inl rfl⟩
  | some backend => exact ofJsonIff.mpr ⟨rfl,rfl⟩

end AskRequest

namespace Message
variable {α : Type} {read : Json → Except Record.Fault α} {m : Message} {x : α}

theorem payloadOk (present : m.payload.isNull = false) :
    m.payloadAs read = .ok x ↔ read m.payload = .ok x := by
  rw [payloadAs,present,if_neg Bool.false_ne_true]
  cases read m.payload <;> simp

theorem payloadInvalid (present : m.payload.isNull = false) (fails : ∀ x, read m.payload ≠ .ok x) :
    ∃ reason, m.payloadAs read = .error (.invalidPayload m.kind reason) := by
  rw [payloadAs,present,if_neg Bool.false_ne_true]
  cases found : read m.payload with
  | ok x => exact absurd found (fails x)
  | error fault => exact ⟨_,rfl⟩

theorem textsFaithful {ms : List (String × Json)} (texts : ∀ member ∈ ms, ∃ s, member.2 = .text s)
    (once : (ms.map (·.1)).Nodup) : Faithful payloadDepth (.object ms) := by
  refine .object once fun member inside => ?_
  obtain ⟨s,same⟩ := texts member inside
  exact same ▸ .text

theorem fieldsIff {ms : List (String × Json)} {r : AttachRequest} : AttachRequest.Told ms r ↔
    ∀ field ∈ AttachRequest.fieldNames.zip [r.engine, r.database, r.url],
      given field.1 ms = [.text field.2] := by
  simp only [AttachRequest.fieldNames,List.zip_cons_cons,List.zip_nil_left,List.forall_mem_cons]
  constructor
  · exact fun told => ⟨told.engine,told.database,told.url,nofun⟩
  · exact fun told => ⟨told.1,told.2.1,told.2.2.1⟩

theorem toldPerm {ms ms' : List (String × Json)} {r : AttachRequest}
    (perm : ∀ names ∈ AttachRequest.fieldNames, (given names ms').Perm (given names ms)) :
    AttachRequest.Told ms' r ↔ AttachRequest.Told ms r := by
  rw [fieldsIff,fieldsIff]
  refine forall₂_congr fun field member => ?_
  have same := perm field.1 (List.of_mem_zip member).1
  rw [← List.perm_singleton,← List.perm_singleton]
  exact ⟨same.symm.trans,same.trans⟩

structure ReadsRequests (kind : String) (receivedAt : Instant) : Prop where
  attach : ∀ ms r, payloadAs AttachRequest.ofJson ⟨kind,.object ms,receivedAt⟩ = .ok r ↔
    AttachRequest.Told ms r
  alike : ∀ ms ms', (∀ names ∈ AttachRequest.fieldNames, (given names ms').Perm (given names ms)) →
    ∀ r, payloadAs AttachRequest.ofJson ⟨kind,.object ms',receivedAt⟩ = .ok r ↔
      payloadAs AttachRequest.ofJson ⟨kind,.object ms,receivedAt⟩ = .ok r
  invalid : ∀ ms, (∃ names ∈ AttachRequest.fieldNames, ∀ s, given names ms ≠ [.text s]) →
    ∃ reason, payloadAs AttachRequest.ofJson ⟨kind,.object ms,receivedAt⟩ =
      .error (.invalidPayload kind reason)
  missing : ∀ {α : Type} (read : Json → Except Record.Fault α),
    payloadAs read ⟨kind,.null,receivedAt⟩ = .error (.missingPayload kind)
  ask : ∀ ms r, payloadAs AskRequest.ofJson ⟨kind,.object ms,receivedAt⟩ = .ok r ↔
    AskRequest.Told ms r
  attachAgain : ∀ r : AttachRequest, payloadAs AttachRequest.ofJson ⟨kind,r.toJson,receivedAt⟩ = .ok r
  askAgain : ∀ r : AskRequest, payloadAs AskRequest.ofJson ⟨kind,r.toJson,receivedAt⟩ = .ok r
  attachSent : ∀ (r : AttachRequest) later,
    decode (Message.mk kind r.toJson receivedAt).toJson.toText later = .ok ⟨kind,r.toJson,later⟩
  askSent : ∀ (r : AskRequest) later,
    decode (Message.mk kind r.toJson receivedAt).toJson.toText later = .ok ⟨kind,r.toJson,later⟩

theorem readsRequests (kind : String) (receivedAt : Instant) : ReadsRequests kind receivedAt where
  attach := fun _ _ => (payloadOk rfl).trans AttachRequest.ofJsonIff
  alike := by
    intro ms ms' perm r
    rw [payloadOk rfl,payloadOk rfl,AttachRequest.ofJsonIff,AttachRequest.ofJsonIff]
    exact toldPerm perm
  invalid := by
    rintro ms ⟨names,field,untold⟩
    refine payloadInvalid rfl fun r ok => ?_
    have told := AttachRequest.ofJsonIff.mp ok
    simp only [AttachRequest.fieldNames,List.mem_cons,List.not_mem_nil,or_false] at field
    rcases field with rfl | rfl | rfl
    · exact untold r.engine told.engine
    · exact untold r.database told.database
    · exact untold r.url told.url
  missing := fun _ => rfl
  ask := fun _ _ => (payloadOk rfl).trans AskRequest.ofJsonIff
  attachAgain := fun r => (payloadOk rfl).mpr r.toldAgain
  askAgain := fun r => (payloadOk rfl).mpr r.toldAgain
  attachSent := by
    intro r later
    exact decodeToJson (m := ⟨kind,r.toJson,receivedAt⟩) (textsFaithful (by simp) (by simp)) later
  askSent := by
    intro r later
    obtain ⟨question,backend⟩ := r
    cases backend <;>
      exact decodeToJson (m := ⟨kind,_,receivedAt⟩) (textsFaithful (by simp) (by simp)) later

end Message
end Querent
