import Querent.Response
import Querent.Proofs.Instant.Text
import Querent.Proofs.Json.Records
import Querent.Proofs.Json.Rendering

/-! The frame of a response is one JSON object on one line, and is read as the response it was made of. -/
namespace Querent.Response
open Json (Document Faithful Spells)
open Json.Reader (Agrees Inside Yields)

def IsText (j : Json) : Prop := ∃ s, j = .text s

def noText {α : Type} : Except Record.Fault α := .error (.other "no text")

def asStatus : Json → Except Record.Fault Bool
  | .text s => match [("success",true), ("error",false)].lookup s with
    | some isSuccess => .ok isSuccess
    | none => noText
  | _ => noText

def asInstant : Json → Except Record.Fault Instant
  | .text s => match Instant.parse? s.toList with
    | some t => .ok t
    | none => noText
  | _ => noText

def valued : List (Record.Slot (Record.Update Json Response)) :=
  [⟨["type"],true,fun j => (Json.asText j).map fun kind r => { r with kind }⟩,
    ⟨["status"],true,fun j => (asStatus j).map fun isSuccess r => { r with isSuccess }⟩,
    ⟨["message"],true,fun j => (Json.asText j).map fun message r => { r with message }⟩,
    ⟨["timestamp"],true,fun j => (asInstant j).map fun sentAt r => { r with sentAt }⟩]

theorem statusYields {s : String} {cs rest : List Char} (spells : Spells .exact (.value (.text s)) cs rest) :
    Yields (Json.Reader.choice [("success",true), ("error",false)] cs) (asStatus (.text s)).toOption rest := by
  cases spells with
  | text quote chars =>
    simp only [Json.Reader.choice,Json.Reader.skipToken quote rfl,Json.Reader.stringWritten chars,asStatus,
      bind,Except.bind]
    cases List.lookup s [("success",true), ("error",false)] <;> rfl

theorem instantYields {s : String} {cs rest : List Char} (spells : Spells .exact (.value (.text s)) cs rest) :
    Yields (instant cs) (asInstant (.text s)).toOption rest := by
  have read := Json.Reader.yieldsOk (Json.Reader.textYields spells)
  simp only [instant,read,asInstant,bind,Except.bind]
  cases Instant.parse? s.toList <;> rfl

theorem slotsAgree : List.Forall₂ (Agrees IsText) slots valued := by
  refine .cons (Json.Reader.slotAgrees ?_ _ _ _) (.cons (Json.Reader.slotAgrees ?_ _ _ _)
    (.cons (Json.Reader.slotAgrees ?_ _ _ _) (.cons (Json.Reader.slotAgrees ?_ _ _ _) .nil)))
  · exact fun _ _ _ _ spells _ => Json.Reader.textYields spells
  · rintro _ _ _ ⟨s,rfl⟩ spells -
    exact statusYields spells
  · exact fun _ _ _ _ spells _ => Json.Reader.textYields spells
  · rintro _ _ _ ⟨s,rfl⟩ spells -
    exact instantYields spells

def frameMembers (r : Response) : List (String × Json) :=
  [("type",.text r.kind), ("status",.text (statusText r.isSuccess)), ("message",.text r.message),
    ("timestamp",.text (String.ofList r.sentAt.render))]

theorem encodeText (r : Response) : r.encode = (Json.object r.frameMembers).toText := rfl

theorem membersText (r : Response) : ∀ m ∈ r.frameMembers, IsText m.2 := by
  simp [frameMembers,IsText]

theorem asRecordMembers {r : Response} (plain : r.sentAt.Plain) :
    Json.asRecord "Response" valued ⟨"",true,"",⟨0,0⟩⟩ (.object r.frameMembers) = .ok r := by
  have time : asInstant (.text (String.ofList r.sentAt.render)) = .ok r.sentAt := by
    rw [asInstant,String.toList_ofList,Instant.parseRender plain]
  have status : asStatus (.text (statusText r.isSuccess)) = .ok r.isSuccess := by
    cases r.isSuccess <;> rfl
  simp [Json.asRecord,frameMembers,Record.ofMembers,Record.Slot.find?,Record.Slot.missing?,valued,
    Record.Slot.answersTo,Record.Slot.name,Json.asText,status,time,Except.map]

theorem faithfulMembers (r : Response) (depth : Nat) : ∀ m ∈ r.frameMembers, Faithful depth m.2 := by
  intro m member
  obtain ⟨s,same⟩ := membersText r m member
  exact same ▸ .text

theorem faithfulFrame (r : Response) : Faithful Json.Reader.maxDepth (.object r.frameMembers) :=
  .object (by simp [frameMembers]) (faithfulMembers r _)

theorem frameDocument (r : Response) : Document .exact (.object r.frameMembers) r.encode.toList :=
  Json.objectRendered (faithfulMembers r 0)

theorem decodeEncode {r : Response} (plain : r.sentAt.Plain) : decode r.encode = .ok r := by
  have agree : (decode r.encode).toOption = _ :=
    Json.Reader.documentAgrees (j := .object r.frameMembers) slotsAgree (membersText r) (frameDocument r)
  rw [asRecordMembers plain] at agree
  cases read : decode r.encode with
  | ok => rw [read] at agree; cases agree; rfl
  | error => rw [read] at agree; contradiction

structure Frames (r : Response) : Prop where
  object : Json.read r.encode.toList = .ok (.object r.frameMembers)
  visible : ∀ c ∈ r.encode.toList, 32 ≤ c.toNat
  decodes : decode r.encode = .ok r
  injective : ∀ r' : Response, r'.sentAt.Plain → r'.encode = r.encode → r' = r

theorem framesResponses {r : Response} (plain : r.sentAt.Plain) : Frames r where
  object := Json.readOfDocument (frameDocument r) (faithfulFrame r)
  visible := by
    rw [encodeText,Json.toText,String.toList_ofList]
    exact Json.visibleRendered (faithfulFrame r)
  decodes := decodeEncode plain
  injective := by
    intro r' plain' same
    have first := decodeEncode plain'
    rw [same,decodeEncode plain] at first
    exact (Except.ok.inj first).symm

theorem framesQuoted : ∃ r : Response, r.message = "\"\n" ∧ r.sentAt.Plain ∧ Frames r := by
  have plain : Instant.Plain ⟨1709210096,5000000⟩ := ⟨by decide,by decide⟩
  exact ⟨⟨askKind,true,"\"\n",_⟩,rfl,plain,framesResponses plain⟩

end Querent.Response
