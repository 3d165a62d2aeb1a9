import Querent.Proofs.Json.Pieces
import Querent.Proofs.Record.Members

/-! Records read from the pieces of a text: from those of an object by name, from those of a list by position.
What a slot reads from a piece takes the place of what it reads from a value. -/
namespace Querent.Json

namespace Piece

theorem elementsClosed {first : Bool} {ps : List Piece} {cs ds rest : List Char} (gap : Gap cs (']' :: ds))
    (elements : Elements first ps cs rest) : ps = [] ∧ rest = ds := by
  have next : Reader.skip cs = ']' :: ds := Reader.skipToken gap rfl
  cases elements with
  | close bracket =>
    have same := next.symm.trans (Reader.skipToken bracket rfl)
    exact ⟨rfl,(List.cons.inj same).2.symm⟩
  | element comma value =>
    obtain ⟨value⟩ := value
    cases comma with
    | first =>
      obtain ⟨c,es,start,other,-⟩ := valueStart value
      exact absurd (List.cons.inj (start.symm.trans next)).1 other
    | comma comma =>
      have same := next.symm.trans (Reader.skipToken comma rfl)
      cases same

theorem membersParted {ms : List (String × Piece)} {cs rest : List Char} (members : Members false ms cs rest) :
    Parted cs := by
  cases members with
  | close brace => exact partedOfGap brace rfl
  | member comma =>
    cases comma with
    | comma comma => exact partedOfGap comma rfl

end Piece

namespace Reader
open Piece (Elements Members)
open Record (Slot Update)

variable {α σ : Type} {r : Reader α}

def onPiece (r : Reader α) (p : Piece) : Except Record.Fault α :=
  match r p.start with
  | .ok (x, rest) => if rest = p.stop then .ok x else .error (.missing "")
  | .error _ => .error (.missing "")

theorem onPieceIff {p : Piece} {x : α} : onPiece r p = .ok x ↔ r p.start = .ok (x,p.stop) := by
  unfold onPiece
  cases r p.start with
  | error fault => simp
  | ok y =>
    by_cases same : y.2 = p.stop <;> simp [same,Prod.ext_iff]

def byPiece (slot : TextSlot σ) : Slot (Update Piece σ) := ⟨slot.names,slot.required,onPiece slot.read⟩

structure SoundSlot (slot : TextSlot σ) : Prop where
  sound : Sound slot.read
  blank : ∀ cs, slot.read (skip cs) = slot.read cs

theorem soundInto (sound : Sound r) (blank : ∀ cs, r (skip cs) = r cs) (names : List String)
    (required : Bool) (update : α → σ → σ) : SoundSlot ⟨names,required,into r update⟩ where
  sound := intoSound sound update
  blank cs := by simp only [into,blank]

section Records
variable {slots : List (TextSlot σ)} {name : String} {p p' : Partial σ} {d x : σ} {cs rest : List Char}

theorem findByPiece (slots : List (TextSlot σ)) (name : String) :
    Slot.find? (slots.map byPiece) name = (Slot.find? slots name).map byPiece := by
  unfold Slot.find?
  rw [List.find?_map]
  rfl

theorem missingByPiece (slots : List (TextSlot σ)) (seen : List String) :
    Slot.missing? (slots.map byPiece) seen = Slot.missing? slots seen := by
  unfold Slot.missing?
  rw [List.find?_map,Option.map_map]
  rfl

def Takes (slots : List (TextSlot σ)) (name : String) (v : Piece) (p p' : Partial σ) : Prop :=
  ∀ ms, Record.ofMembers (slots.map byPiece) p.seen p.record ((name,v) :: ms) =
    Record.ofMembers (slots.map byPiece) p'.seen p'.record ms

theorem takePiece (sound : ∀ slot ∈ slots, Sound slot.read)
    (ok : takeMember slots name p cs = .ok (p',rest)) :
    ∃ v : Piece, Gap cs (':' :: v.start) ∧ v.stop = rest ∧ IsElement v.start v.stop ∧
      Takes slots name v p p' := by
  have found := findByPiece slots name
  unfold takeMember at ok
  split at ok
  · rename_i none
    rw [none] at found
    obtain ⟨ds,gap,ok⟩ := bindOk ok
    obtain ⟨⟨_,es⟩,passed,same⟩ := bindOk ok
    cases same
    obtain ⟨j,value⟩ := passOverSound _ _ _ passed
    exact ⟨⟨ds,rest⟩,colonSound gap,rfl,⟨value⟩,fun _ => Record.ofMembersNone found _⟩
  · rename_i slot here
    rw [here] at found
    split at ok
    · contradiction
    · rename_i new
      obtain ⟨ds,gap,ok⟩ := bindOk ok
      obtain ⟨⟨update,es⟩,read,same⟩ := bindOk ok
      cases same
      obtain ⟨j,value⟩ := sound slot (List.mem_of_find?_eq_some here) _ _ _ read
      refine ⟨⟨ds,rest⟩,colonSound gap,rfl,⟨value⟩,fun ms => ?_⟩
      have took : (byPiece slot).read ⟨ds,rest⟩ = .ok update := onPieceIff.mpr read
      simp only [Record.ofMembers,found,Option.map_some,took]
      exact if_neg new

theorem takeOfPiece {v : Piece} {ms : List (String × Piece)} (gap : Gap cs (':' :: v.start))
    (element : IsElement v.start v.stop) (parted : Parted v.stop)
    (ok : Record.ofMembers (slots.map byPiece) p.seen p.record ((name,v) :: ms) = .ok d) :
    ∃ p', takeMember slots name p cs = .ok (p',v.stop) ∧
      Record.ofMembers (slots.map byPiece) p'.seen p'.record ms = .ok d := by
  have found := findByPiece slots name
  unfold takeMember
  cases here : Slot.find? slots name with
  | none =>
    rw [here] at found
    rw [Record.ofMembersNone found] at ok
    obtain ⟨value⟩ := element
    refine ⟨p,?_,ok⟩
    simp [colonOfGap gap,passOverOfSpells value parted,bind,Except.bind]
  | some slot =>
    rw [here] at found
    obtain ⟨new,update,took,ok⟩ := (Record.ofMembersSome found).mp ok
    have read : slot.read v.start = .ok (update,v.stop) := onPieceIff.mp took
    have new : slot.name ∉ p.seen := new
    refine ⟨⟨slot.name :: p.seen,update p.record⟩,?_,ok⟩
    simp [new,colonOfGap gap,read,bind,Except.bind]

-- A required slot that was not seen is missed at the closing brace, where the members have been read.
theorem membersPieces (sound : ∀ slot ∈ slots, Sound slot.read) {fuel : Nat} {first : Bool}
    (ok : membersUpTo (takeMember slots) fuel first p cs = .ok (p',rest))
    (full : Slot.missing? slots p'.seen = none) :
    ∃ ms, Members first ms cs rest ∧
      Record.ofMembers (slots.map byPiece) p.seen p.record ms = .ok p'.record := by
  induction fuel generalizing first p cs with
  | zero => contradiction
  | succ fuel ih =>
    obtain ⟨⟨name,ds⟩,read,ok⟩ := bindOk ok
    cases name with
    | none =>
      cases ok
      refine ⟨[],.close (memberNameSound read),?_⟩
      rw [Record.ofMembers,missingByPiece,full]
    | some name =>
      obtain ⟨⟨next,es⟩,taken,ok⟩ := bindOk ok
      obtain ⟨ms,members,record⟩ := ih ok
      obtain ⟨_,_,comma,quote,chars⟩ := memberNameSound read
      obtain ⟨v,gap,rfl,element,takes⟩ := takePiece sound taken
      exact ⟨(name,v) :: ms,.member comma quote chars gap element members,(takes ms).trans record⟩

theorem membersOfPieces {fuel : Nat} {first : Bool} {ms : List (String × Piece)}
    (members : Members first ms cs rest)
    (ok : Record.ofMembers (slots.map byPiece) p.seen p.record ms = .ok d) (enough : cs.length < fuel) :
    ∃ p', membersUpTo (takeMember slots) fuel first p cs = .ok (p',rest) ∧ p'.record = d ∧
      Slot.missing? slots p'.seen = none := by
  induction fuel generalizing first p ms cs with
  | zero => contradiction
  | succ fuel ih =>
    cases members with
    | close brace =>
      rw [Record.ofMembers,missingByPiece] at ok
      split at ok
      · contradiction
      · rename_i full
        cases ok
        refine ⟨p,?_,rfl,full⟩
        simp [membersUpTo,memberNameEnd brace,bind,Except.bind]
    | @member _ name v ms _ ds es fs _ comma quote chars colon element more =>
      obtain ⟨next,taken,record⟩ := takeOfPiece colon element (Piece.membersParted more) ok
      have shorter : v.stop.length < cs.length := by
        obtain ⟨value⟩ := element
        have := commaLength comma
        have := gapLength quote
        have := quotableShorter (quotableOfWritten chars)
        have := gapLength colon
        have := spellsShorter value
        simp only [List.length_cons] at *
        omega
      obtain ⟨p',others,same,full⟩ := ih more record (by omega)
      refine ⟨p',?_,same,full⟩
      simp [membersUpTo,memberNameOf comma quote chars,taken,others,bind,Except.bind]

-- The slots that are left when the list ends meet its closing bracket one after the other.
theorem recordElementsPieces (all : ∀ slot ∈ slots, SoundSlot slot) {count : String} {index : Nat}
    {first : Bool} (ok : recordElements count index slots first d cs = .ok (x,rest)) :
    ∃ ps, Elements first ps cs rest ∧
      Record.ofElements count index (slots.map byPiece) d ps = .ok (x,[]) := by
  induction slots generalizing index first d cs with
  | nil =>
    unfold recordElements at ok
    split at ok
    · contradiction
    · rename_i bracket
      cases ok
      exact ⟨[],.close (gapOfSkip bracket),rfl⟩
    · split at ok <;> contradiction
    · contradiction
  | cons slot slots ih =>
    have tail : ∀ slot ∈ slots, SoundSlot slot := (List.forall_mem_cons.mp all).2
    obtain ⟨sound,blank⟩ := all slot List.mem_cons_self
    unfold recordElements at ok
    dsimp only at ok
    split at ok
    · contradiction
    · rename_i bracket
      split at ok
      · contradiction
      · rename_i optional
        obtain ⟨ps,elements,record⟩ := ih tail ok
        obtain ⟨rfl,rfl⟩ := Piece.elementsClosed .none elements
        refine ⟨[],.close (gapOfSkip bracket),?_⟩
        rw [List.map_cons,Record.ofElements]
        exact (if_neg optional).trans record
    · rename_i c ds _ start
      have further : ∀ before, Comma first cs before →
          (slot.read before >>= fun update =>
            recordElements count (index + 1) slots false (update.1 d) update.2) = .ok (x,rest) →
          ∃ ps, Elements first ps cs rest ∧
            Record.ofElements count index ((slot :: slots).map byPiece) d ps = .ok (x,[]) := by
        intro before comma ok
        obtain ⟨⟨update,es⟩,read,ok⟩ := bindOk ok
        obtain ⟨j,value⟩ := sound _ _ _ read
        obtain ⟨ps,elements,record⟩ := ih tail ok
        have took : (byPiece slot).read ⟨before,es⟩ = .ok update := onPieceIff.mpr read
        refine ⟨⟨before,es⟩ :: ps,.element comma ⟨value⟩ elements,?_⟩
        rw [List.map_cons,Record.ofElements,took]
        exact record
      cases first with
      | true =>
        refine further cs .first ?_
        rw [← blank cs,start]
        exact ok
      | false =>
        rw [if_neg Bool.false_ne_true] at ok
        split at ok
        · rename_i comma
          have comma : Comma false cs ds := .comma (comma ▸ gapOfSkip start)
          split at ok
          · contradiction
          · contradiction
          · refine further ds comma ?_
            rw [← blank ds]
            exact ok
        · contradiction

theorem recordElementsOfPieces (all : ∀ slot ∈ slots, SoundSlot slot) {count : String} {index : Nat}
    {first : Bool} {ps : List Piece} (elements : Elements first ps cs rest)
    (ok : Record.ofElements count index (slots.map byPiece) d ps = .ok (x,[])) :
    recordElements count index slots first d cs = .ok (x,rest) := by
  induction slots generalizing index first d ps cs with
  | nil =>
    cases ok
    cases elements with
    | close bracket => simp only [recordElements,skipToken bracket rfl]
  | cons slot slots ih =>
    have tail : ∀ slot ∈ slots, SoundSlot slot := (List.forall_mem_cons.mp all).2
    cases elements with
    | close bracket =>
      rw [List.map_cons,Record.ofElements] at ok
      simp only [recordElements,skipToken bracket rfl]
      split at ok
      · contradiction
      · rename_i optional
        exact (if_neg optional).trans (ih tail (.close .none) ok)
    | @element _ v ps _ _ comma element others =>
      obtain ⟨sound,blank⟩ := all slot List.mem_cons_self
      obtain ⟨spells⟩ := element
      obtain ⟨c,ds,start,list,-⟩ := valueStart spells
      rw [List.map_cons,Record.ofElements] at ok
      split at ok
      · contradiction
      · rename_i update took
        have read : slot.read (c :: ds) = .ok (update,v.stop) :=
          start ▸ (blank v.start).trans (onPieceIff.mp took)
        have rest := ih tail others ok
        cases comma with
        | first => simp [recordElements,start,read,rest,bind,Except.bind]
        | comma comma => simp [recordElements,skipToken comma rfl,start,list,read,rest,bind,Except.bind]

theorem recordIff (all : ∀ slot ∈ slots, SoundSlot slot) :
    record name slots d cs = .ok (x,rest) ↔
      (∃ ms, Piece.IsObject ⟨cs,rest⟩ ms ∧ Record.ofMembers (slots.map byPiece) [] d ms = .ok x) ∨
      ∃ ps, Piece.IsList ⟨cs,rest⟩ ps ∧
        Record.ofElements (Record.counted name slots.length) 0 (slots.map byPiece) d ps = .ok (x,[]) := by
  constructor
  · intro ok
    unfold record at ok
    split at ok
    · contradiction
    · rename_i brace
      obtain ⟨⟨p,es⟩,read,ok⟩ := bindOk ok
      dsimp only at ok
      split at ok
      · contradiction
      · rename_i full
        cases ok
        obtain ⟨ms,members,record⟩ := membersPieces (fun slot member => (all slot member).sound) read full
        exact .inl ⟨ms,⟨_,gapOfSkip brace,members⟩,record⟩
    · rename_i bracket
      obtain ⟨ps,elements,record⟩ := recordElementsPieces all ok
      exact .inr ⟨ps,⟨_,gapOfSkip bracket,elements⟩,record⟩
    · exact absurd ok (unexpectedFails _ _ _)
  · rintro (⟨ms,⟨ds,brace,members⟩,ok⟩ | ⟨ps,⟨ds,bracket,elements⟩,ok⟩)
    · have whole : Record.ofMembers (slots.map byPiece) (⟨[],d⟩ : Partial σ).seen d ms = .ok x := ok
      obtain ⟨p,read,rfl,full⟩ := membersOfPieces members whole (Nat.lt_succ_self _)
      have read : Reader.members (takeMember slots) ⟨[],d⟩ ds = .ok (p,rest) := read
      simp [record,skipToken brace rfl,read,full,bind,Except.bind]
    · simp only [record,skipToken bracket rfl]
      exact recordElementsOfPieces all elements ok

theorem itemsOfMembers {first : Bool} {ms : List (String × Piece)} (members : Members first ms cs rest) :
    Items IsMember '\x7d' first cs rest := by
  induction members with
  | close brace => exact .close brace
  | member comma quote chars colon value _ ih =>
    obtain ⟨value⟩ := value
    exact .item comma ⟨quote,quotableOfWritten chars,colon,value⟩ ih

theorem isObjectElement {p : Piece} {ms : List (String × Piece)} (object : p.IsObject ms) :
    IsElement p.start p.stop := by
  obtain ⟨cs,brace,members⟩ := object
  obtain ⟨ms,spells⟩ := itemsIffMembers.mp (itemsOfMembers members)
  exact ⟨.object brace spells⟩

theorem recordSound (all : ∀ slot ∈ slots, SoundSlot slot) (name : String) (default : σ) :
    Sound (record name slots default) := by
  intro cs x rest ok
  rcases (recordIff all).mp ok with ⟨ms,object,-⟩ | ⟨ps,list,-⟩
  · obtain ⟨value⟩ := isObjectElement object
    exact ⟨_,value⟩
  · obtain ⟨value⟩ := isListElement list
    exact ⟨_,value⟩

end Records

end Reader
end Querent.Json
