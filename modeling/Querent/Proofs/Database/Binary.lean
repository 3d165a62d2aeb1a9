import Querent.Proofs.Database.Record
import Querent.Proofs.Json.Records
import Querent.Proofs.Text.Utf8

/-! Octets in a record. They are shown as text, with a replacement for what is none; but those of one
engine that are the text of a JSON value become that value. -/
namespace Querent
open Database
open Text.Utf8 (Octets Parts Piece encode decodeIff)

namespace Database

inductive Binary (octets : Octets) : (engine : Engine) → Cell engine → Prop where
  | postgres : Binary octets .postgres (Postgres.Value.bytea octets)
  | mysql : Binary octets .mysql (MySql.Value.binary octets)
  | sqlite : Binary octets .sqlite (Sqlite.Value.blob octets)

def Shown (octets : Octets) (s : String) : Prop :=
  ∃ parts, Parts octets parts ∧ s.toList = parts.map Piece.shown

theorem shownIff {octets : Octets} {s : String} :
    Shown octets s ↔ s = String.ofList (Text.Utf8.lossy octets) := by
  rw [Shown,Text.Utf8.shownIff,← String.toList_inj,String.toList_ofList]

theorem jsonSome {octets : Octets} {j : Json} :
    Decoder.json? octets = some j ↔ ∃ cs, octets = encode cs ∧ Json.read cs = .ok j := by
  simp only [← decodeIff,Decoder.json?]
  cases Text.Utf8.decode octets with
  | error fault => simp
  | ok cs => simp [Json.Reader.optionSome]

theorem binaryToJson (octets : Octets) :
    (MySql.Value.binary octets).toJson = (Decoder.json? octets).getD (Decoder.lossy octets) := by
  simp only [MySql.Value.toJson,decodeBy,MySql.Value.decoders,MySql.Value.signedIn,
    MySql.Value.unsignedIn,List.findSome?]
  cases Decoder.json? octets <;> rfl

def HoldsShown (octets : Octets) (name : String) (row : Row) : Prop :=
  ∃ s, (∀ t, Shown octets t ↔ t = s) ∧ ∀ j, (name,j) ∈ row ↔ j = .text s

structure OctetsRendered {engine : Engine} (octets : Octets) (cells : Cells (Cell engine))
    (name : String) : Prop where
  shown : (engine = .mysql → ∀ cs j, octets = encode cs → Json.read cs ≠ .ok j) →
    HoldsShown octets name (record Cell.toJson cells)
  plain : (∀ cs j, octets = encode cs → ¬ Json.Document .loose j cs) →
    HoldsShown octets name (record Cell.toJson cells)
  read : engine = .mysql → ∀ cs v, octets = encode cs → Json.read cs = .ok v →
    ∀ j, (name,j) ∈ record Cell.toJson cells ↔ j = v

theorem binaryText {engine : Engine} {octets : Octets} {v : Cell engine} (binary : Binary octets engine v)
    (unread : engine = .mysql → ∀ cs j, octets = encode cs → Json.read cs ≠ .ok j) :
    v.toJson = Decoder.lossy octets := by
  cases binary with
  | postgres => rfl
  | sqlite => rfl
  | mysql =>
    refine (binaryToJson octets).trans ?_
    cases found : Decoder.json? octets with
    | none => rfl
    | some j =>
      obtain ⟨cs,same,read⟩ := jsonSome.mp found
      exact absurd read (unread rfl cs j same)

theorem octetsRendered {engine : Engine} {octets : Octets} {cells : Cells (Cell engine)} {name : String}
    {v : Cell engine} (binary : Binary octets engine v) (last : Last cells name v) :
    OctetsRendered octets cells name := by
  have text (unread : engine = .mysql → ∀ cs j, octets = encode cs → Json.read cs ≠ .ok j) :
      HoldsShown octets name (record Cell.toJson cells) := by
    refine ⟨_,fun t => shownIff,fun j => ?_⟩
    rw [recordLast last,binaryText binary unread,Decoder.lossy]
  refine ⟨text,?_,?_⟩
  · intro none
    refine text fun _ cs j same read => ?_
    obtain ⟨j',document⟩ := Json.Reader.documentSound (Json.Reader.valueSound _) read
    exact none cs j' same document
  · rintro rfl cs v same read j
    cases binary with
    | mysql =>
      have found : Decoder.json? octets = some v := jsonSome.mpr ⟨cs,same,read⟩
      have value : @Cell.toJson .mysql (MySql.Value.binary octets) = v := by
        refine (binaryToJson octets).trans ?_
        rw [found]
        rfl
      rw [recordLast last,value]

theorem brokenOctets : ∃ v : Cell .mysql, Binary [0x61,0xff] .mysql v ∧
    HoldsShown [0x61,0xff] "v" (record Cell.toJson [("v",v)]) := by
  let v : Cell .mysql := MySql.Value.binary [0x61,0xff]
  have last : Last [("v",v)] "v" v := ⟨[],[],rfl,List.not_mem_nil⟩
  have unread : ∀ cs j, [0x61,0xff] = encode cs → Json.read cs ≠ .ok j := by
    intro cs j same
    have fault : Text.Utf8.decode [0x61,0xff] = .error (.broken 1 1) := rfl
    rw [decodeIff.mpr same] at fault
    contradiction
  exact ⟨v,.mysql,(octetsRendered .mysql last).shown fun _ => unread⟩

theorem nullOctets : ¬ ∀ (engine : Engine) (octets : Octets) (v : Cell engine) (cells : Cells (Cell engine))
    (name : String), Binary octets engine v → Last cells name v →
      ∃ s, Shown octets s ∧ (name,.text s) ∈ record Cell.toJson cells := by
  intro shown
  let v : Cell .mysql := MySql.Value.binary [0x6e,0x75,0x6c,0x6c]
  have last : Last [("v",v)] "v" v := ⟨[],[],rfl,List.not_mem_nil⟩
  obtain ⟨s,-,holds⟩ := shown .mysql _ v _ "v" .mysql last
  have null : v.toJson = .null := by decide +kernel
  rw [recordLast last,null] at holds
  contradiction

end Database
end Querent
