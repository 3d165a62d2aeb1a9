import Querent.Message
import Querent.Proofs.Json.Assembly
import Querent.Proofs.Json.Rendering

/-! Which frames are messages. Of an object the members `type` and `payload` count, each of which stands
at most once; a list gives the two by position. All that is read is JSON, and a message that was read is
read again from its text. -/
namespace Querent.Message
open Json (Document Faithful)
open Json.Reader (Agrees Inside SoundSlot Yields soundInto textReads textSound valueSkip valueSound)

def valued : List (Record.Slot (Record.Update Json Message)) :=
  [Record.slot ["type"] true Json.asText fun kind m => { m with kind },
    Record.slot ["payload"] false .ok fun payload m => { m with payload }]

def payloadDepth : Nat := Json.Reader.maxDepth - 1

theorem slotsAgree : List.Forall₂ (Agrees (Faithful payloadDepth)) slots valued := by
  refine .cons (Json.Reader.slotAgrees ?_ _ _ _) (.cons (Json.Reader.slotAgrees ?_ _ _ _) .nil)
  · exact fun j cs rest _ spells _ => Json.Reader.textYields spells
  · exact fun j cs rest faithful spells parted =>
      congrArg Except.toOption (Json.Reader.valueOfSpells spells faithful parted)

theorem slotsSound : ∀ slot ∈ slots, SoundSlot slot := by
  simp only [slots,List.forall_mem_cons,List.not_mem_nil,false_implies,implies_true,and_true]
  exact ⟨soundInto textSound textReads.blank _ _ _,soundInto (valueSound _) (valueSkip _) _ _ _⟩

def values (name : String) (ms : List (String × Json)) : List Json :=
  (ms.filter (·.1 = name)).map (·.2)

theorem valuesCons (name n : String) (v : Json) (ms : List (String × Json)) :
    values name ((n,v) :: ms) = if n = name then v :: values name ms else values name ms := by
  unfold values
  rw [List.filter_cons]
  split <;> simp_all

theorem findType : Record.Slot.find? valued "type" = some
    (Record.slot ["type"] true Json.asText fun kind m => { m with kind }) := rfl

theorem findPayload : Record.Slot.find? valued "payload" = some
    (Record.slot ["payload"] false .ok fun payload m => { m with payload }) := rfl

theorem findOther {name : String} (type : name ≠ "type") (payload : name ≠ "payload") :
    Record.Slot.find? valued name = none := by
  simp [Record.Slot.find?,valued,Record.slot,Record.Slot.answersTo,type,payload]

structure Completes (seen : List String) (before m : Message) (ms : List (String × Json)) : Prop where
  kind : if "type" ∈ seen then values "type" ms = [] ∧ m.kind = before.kind
    else values "type" ms = [.text m.kind]
  payload : values "payload" ms = [] ∧ m.payload = before.payload ∨
    "payload" ∉ seen ∧ values "payload" ms = [m.payload]
  receivedAt : m.receivedAt = before.receivedAt

theorem missingType (seen : List String) :
    Record.Slot.missing? valued seen = if "type" ∈ seen then none else some "type" := by
  by_cases member : "type" ∈ seen <;>
    simp [Record.Slot.missing?,valued,Record.slot,Record.Slot.name,member]

theorem completesNil {seen : List String} {before m : Message} :
    Record.ofMembers valued seen before [] = .ok m ↔ Completes seen before m [] := by
  rw [Record.ofMembers,missingType]
  by_cases member : "type" ∈ seen
  · rw [if_pos member]
    constructor
    · rintro ⟨⟩
      exact ⟨by simp [member,values],.inl ⟨rfl,rfl⟩,rfl⟩
    · rintro ⟨kind,payload,receivedAt⟩
      rw [if_pos member] at kind
      have payload : m.payload = before.payload := by simpa [values] using payload
      cases m
      cases before
      simp_all
  · rw [if_neg member]
    refine ⟨fun ok => by contradiction,fun completes => ?_⟩
    have kind := completes.kind
    rw [if_neg member] at kind
    contradiction

theorem completesType {seen : List String} {before m : Message} {v : Json}
    {ms : List (String × Json)} : Completes seen before m (("type",v) :: ms) ↔
      "type" ∉ seen ∧ ∃ kind, v = .text kind ∧ Completes ("type" :: seen) { before with kind } m ms := by
  constructor
  · rintro ⟨kind,payload,receivedAt⟩
    rw [valuesCons,if_pos rfl] at kind
    rw [valuesCons,if_neg (show "type" ≠ "payload" by decide)] at payload
    split at kind
    · exact absurd kind.1 (by simp)
    · rename_i new
      obtain ⟨rfl,none⟩ := List.cons.inj kind
      exact ⟨new,m.kind,rfl,by simp [none],by simpa using payload,receivedAt⟩
  · rintro ⟨new,kind,rfl,first,payload,receivedAt⟩
    obtain ⟨none,same⟩ := by simpa using first
    refine ⟨?_,?_,receivedAt⟩
    · rw [if_neg new,valuesCons,if_pos rfl,none,same]
    · rw [valuesCons,if_neg (show "type" ≠ "payload" by decide)]
      simpa using payload

theorem completesPayload {seen : List String} {before m : Message} {v : Json}
    {ms : List (String × Json)} : Completes seen before m (("payload",v) :: ms) ↔
      "payload" ∉ seen ∧ Completes ("payload" :: seen) { before with payload := v } m ms := by
  constructor
  · rintro ⟨kind,payload,receivedAt⟩
    rw [valuesCons,if_neg (show "payload" ≠ "type" by decide)] at kind
    rw [valuesCons,if_pos rfl] at payload
    obtain ⟨new,same⟩ := payload.resolve_left fun absent => absurd absent.1 (by simp)
    obtain ⟨rfl,none⟩ := List.cons.inj same
    exact ⟨new,by simpa using kind,.inl ⟨none,rfl⟩,receivedAt⟩
  · rintro ⟨new,kind,payload,receivedAt⟩
    obtain ⟨none,same⟩ := payload.resolve_right fun present => present.1 List.mem_cons_self
    refine ⟨?_,.inr ⟨new,?_⟩,receivedAt⟩
    · rw [valuesCons,if_neg (show "payload" ≠ "type" by decide)]
      simpa using kind
    · rw [valuesCons,if_pos rfl,none,same]

theorem ofMembersType (seen : List String) (before : Message) (v : Json) (ms : List (String × Json)) :
    Record.ofMembers valued seen before (("type",v) :: ms) =
      if "type" ∈ seen then .error (.duplicate "type")
      else match Json.asText v with
        | .error fault => .error fault
        | .ok kind => Record.ofMembers valued ("type" :: seen) { before with kind } ms := by
  have slotName : (Record.slot ["type"] true Json.asText fun kind (m : Message) =>
      { m with kind }).name = "type" := rfl
  rw [Record.ofMembers,findType]
  simp only [slotName,List.contains_iff_mem]
  split
  · rfl
  · simp only [Record.slot]
    cases Json.asText v <;> rfl

theorem ofMembersPayload (seen : List String) (before : Message) (v : Json)
    (ms : List (String × Json)) : Record.ofMembers valued seen before (("payload",v) :: ms) =
      if "payload" ∈ seen then .error (.duplicate "payload")
      else Record.ofMembers valued ("payload" :: seen) { before with payload := v } ms := by
  have slotName : (Record.slot ["payload"] false .ok fun payload (m : Message) =>
      { m with payload }).name = "payload" := rfl
  rw [Record.ofMembers,findPayload]
  simp only [slotName,List.contains_iff_mem]
  split <;> rfl

theorem ofMembersIff {seen : List String} {before m : Message} {ms : List (String × Json)} :
    Record.ofMembers valued seen before ms = .ok m ↔ Completes seen before m ms := by
  induction ms generalizing seen before with
  | nil => exact completesNil
  | cons member ms ih =>
    obtain ⟨name,v⟩ := member
    by_cases type : name = "type"
    · subst type
      rw [ofMembersType,completesType]
      by_cases member : "type" ∈ seen
      · simp [member]
      · cases v <;> simp [member,Json.asText,Json.wrongKind,ih]
    by_cases payload : name = "payload"
    · subst payload
      rw [ofMembersPayload,completesPayload]
      by_cases member : "payload" ∈ seen
      · simp [member]
      · simp [member,ih]
    · rw [Record.ofMembers,findOther type payload]
      dsimp only
      rw [ih]
      constructor
      · rintro ⟨k,p,r⟩
        exact ⟨by simpa [valuesCons,type] using k,by simpa [valuesCons,payload] using p,r⟩
      · rintro ⟨k,p,r⟩
        exact ⟨by simpa [valuesCons,type] using k,by simpa [valuesCons,payload] using p,r⟩

def Tells (m : Message) : Json → Prop
  | .object ms => values "type" ms = [.text m.kind] ∧
    (values "payload" ms = [] ∧ m.payload = .null ∨ values "payload" ms = [m.payload])
  | .array xs => xs = [.text m.kind] ∧ m.payload = .null ∨ xs = [.text m.kind,m.payload]
  | _ => False

theorem tellsIff {j : Json} {receivedAt : Instant} {m : Message} :
    Json.asRecord "InboundMessage" valued ⟨"",.null,receivedAt⟩ j = .ok m ↔
      Tells m j ∧ m.receivedAt = receivedAt := by
  cases j with
  | object ms =>
    rw [Json.asRecord,ofMembersIff]
    constructor
    · rintro ⟨kind,payload,same⟩
      exact ⟨⟨by simpa using kind,by simpa using payload⟩,same⟩
    · rintro ⟨⟨kind,payload⟩,same⟩
      exact ⟨by simpa using kind,by simpa using payload,same⟩
  | array xs =>
    obtain ⟨kind,payload,time⟩ := m
    rcases xs with _ | ⟨x,_ | ⟨y,_ | ⟨z,xs⟩⟩⟩
    · simp [Json.asRecord,Record.ofElements,valued,Record.slot,Tells]
    · cases x <;> simp [Json.asRecord,Record.ofElements,valued,Record.slot,Tells,Json.asText,
        Json.wrongKind,Except.map]
      tauto
    · cases x <;> simp [Json.asRecord,Record.ofElements,valued,Record.slot,Tells,Json.asText,
        Json.wrongKind,Except.map]
      tauto
    · cases x <;> simp [Json.asRecord,Record.ofElements,valued,Record.slot,Tells,Json.asText,
        Json.wrongKind,Except.map]
  | null | bool | number | text => simp [Json.asRecord,Json.wrongKind,Tells]

theorem decodeOkIff {frame : String} {receivedAt : Instant} {m : Message} :
    decode frame receivedAt = .ok m ↔
      (Json.Reader.document (reader receivedAt) frame.toList).toOption = some m := by
  unfold decode
  split
  · rename_i found
    simp [found,Except.toOption]
  · rename_i found
    simp [found,Except.toOption]

theorem decodeIff {frame : String} {receivedAt : Instant} {m : Message} {j : Json}
    (spells : Document .exact j frame.toList) (inside : Inside (Faithful payloadDepth) j) :
    decode frame receivedAt = .ok m ↔ Tells m j ∧ m.receivedAt = receivedAt := by
  have agree : (Json.Reader.document (reader receivedAt) frame.toList).toOption = _ :=
    Json.Reader.documentAgrees slotsAgree inside spells
  rw [decodeOkIff,agree,← tellsIff]
  cases Json.asRecord "InboundMessage" valued ⟨"",.null,receivedAt⟩ j <;> simp [Except.toOption]

theorem rejected {frame : String} {receivedAt : Instant}
    (fails : ∀ m, decode frame receivedAt ≠ .ok m) :
    ∃ reason, decode frame receivedAt = .error (.invalidEnvelope reason) := by
  unfold decode at fails ⊢
  split
  · rename_i found
    rw [found] at fails
    exact absurd rfl (fails _)
  · exact ⟨_,rfl⟩

theorem readOfDecode {frame : String} {receivedAt : Instant} {m : Message}
    (ok : decode frame receivedAt = .ok m) :
    Json.Reader.document (reader receivedAt) frame.toList = .ok m := by
  have found := decodeOkIff.mp ok
  cases read : Json.Reader.document (reader receivedAt) frame.toList with
  | ok => rw [read] at found; cases found; rfl
  | error => rw [read] at found; contradiction

theorem payloadFaithful {m : Message} {j : Json} (tells : Tells m j)
    (inside : Inside (Faithful payloadDepth) j) : Faithful payloadDepth m.payload := by
  cases j with
  | object ms =>
    rcases tells.2 with ⟨-,null⟩ | present
    · exact null ▸ .null
    · have member : m.payload ∈ values "payload" ms := present ▸ List.mem_cons_self
      obtain ⟨entry,kept,same⟩ := List.mem_map.mp member
      exact same ▸ inside entry (List.mem_filter.mp kept).1
  | array xs =>
    rcases tells with ⟨-,null⟩ | rfl
    · exact null ▸ .null
    · exact inside m.payload (by simp)
  | null | bool | number | text => exact tells.elim

theorem decodeToJson {m : Message} (faithful : Faithful payloadDepth m.payload) (receivedAt : Instant) :
    decode m.toJson.toText receivedAt = .ok { m with receivedAt } := by
  have inside : ∀ member ∈ [("type",Json.text m.kind),("payload",m.payload),
      ("timestamp",.text (String.ofList m.receivedAt.render))], Faithful payloadDepth member.2 := by
    simp only [List.forall_mem_cons,List.not_mem_nil,false_implies,implies_true,and_true]
    exact ⟨.text,faithful,.text⟩
  refine (decodeIff (Json.objectRendered inside) inside).mpr ⟨⟨?_,.inr ?_⟩,rfl⟩ <;> simp [values]

structure Decodes (frame : String) (receivedAt : Instant) : Prop where
  tells : ∀ j, Document .exact j frame.toList → Inside (Faithful payloadDepth) j → ∀ m,
    decode frame receivedAt = .ok m ↔ Tells m j ∧ m.receivedAt = receivedAt
  composite : ∀ j, Document .loose j frame.toList → (∀ xs, j ≠ .array xs) → (∀ ms, j ≠ .object ms) →
    ∃ reason, decode frame receivedAt = .error (.invalidEnvelope reason)
  document : (¬ ∃ j, Document .loose j frame.toList) →
    ∃ reason, decode frame receivedAt = .error (.invalidEnvelope reason)
  rejected : (∀ m, decode frame receivedAt ≠ .ok m) →
    ∃ reason, decode frame receivedAt = .error (.invalidEnvelope reason)
  again : ∀ j, Document .exact j frame.toList → Inside (Faithful payloadDepth) j → ∀ m,
    decode frame receivedAt = .ok m → ∀ later,
      decode m.toJson.toText later = .ok { m with receivedAt := later }

theorem decodesEnvelopes (frame : String) (receivedAt : Instant) : Decodes frame receivedAt where
  tells := fun _ spells inside _ => decodeIff spells inside
  composite := by
    rintro j ⟨rest,spells,-⟩ list object
    refine rejected fun m ok => ?_
    obtain ⟨x,read,-⟩ := Json.Reader.bindOk (readOfDecode ok)
    exact Json.Reader.recordFails spells list object _ _ _ x read
  document := fun none => rejected fun m ok => none
    (Json.Reader.documentSound (Json.Reader.recordSound slotsSound _ _) (readOfDecode ok))
  rejected := rejected
  again := fun _ spells inside _ ok => decodeToJson
    (payloadFaithful ((decodeIff spells inside).mp ok).1 inside)

theorem decodesRepeated : decode (Json.object
    [("timestamp",.int 1), ("type",.text askKind), ("timestamp",.null)]).toText ⟨1714564800,0⟩ =
      .ok ⟨askKind,.null,⟨1714564800,0⟩⟩ := by
  have inside : ∀ m ∈ [("timestamp",Json.int 1), ("type",.text askKind), ("timestamp",.null)],
      Faithful payloadDepth m.2 := by
    simp only [List.forall_mem_cons,List.not_mem_nil,false_implies,implies_true,and_true]
    exact ⟨.number ⟨by decide,by decide⟩,.text,.null⟩
  exact ((decodesEnvelopes _ _).tells _ (Json.objectRendered inside) inside _).mpr
    ⟨⟨rfl,.inl ⟨rfl,rfl⟩⟩,rfl⟩

end Querent.Message
