import Querent.Proofs.Json.Assembly

/-! Records by their fields. Each field of a record is told by one piece at most, and of the records here one
field counts. -/
namespace Querent.Json
open Record (given)

namespace Piece
variable {α β : Type}

/-- What stands for each field of a record: in an object the only member of its name, in a list the element
at its place. Other members do not count, more elements than fields are none. -/
inductive Fields (names : List String) (p : Piece) (fs : List (Option Piece)) : Prop where
  | object {ms} (object : p.IsObject ms)
      (found : List.Forall₂ (fun name f => given [name] ms = f.toList) names fs) : Fields names p fs
  | list {ps missing} (list : p.IsList ps) (placed : fs = ps.map some ++ List.replicate missing none)
      (count : fs.length = names.length) : Fields names p fs

def Holds (shape : Piece → α → Prop) (absent : Option α) : Option Piece → α → Prop
  | none, x => absent = some x
  | some p, x => shape p x

def Sole (name : String) (shape : Piece → α → Prop) (absent : Option α) (p : Piece) (x : α) : Prop :=
  ∃ f, Fields [name] p [f] ∧ Holds shape absent f x

def Behind (first : String) (shape : Piece → α → Prop) (absent : Option α) (name : String)
    (shape' : Piece → β → Prop) (absent' : Option β) (p : Piece) (x : β) : Prop :=
  ∃ f g, Fields [first,name] p [f,g] ∧ (∃ y, Holds shape absent f y) ∧ Holds shape' absent' g x

end Piece

namespace Reader
open Piece (Elements Members Fields Holds Sole Behind)
open Record (Apart Fills Sets Slot)

variable {α β σ : Type} {r : Reader α} {shape : Piece → α → Prop}

inductive Filled : List (TextSlot σ) → List (Option Piece) → σ → σ → Prop where
  | nil {x} : Filled [] [] x x
  | absent {slot slots fs x y} (optional : slot.required = false) (more : Filled slots fs x y) :
      Filled (slot :: slots) (none :: fs) x y
  | present {slot slots p update fs x y} (read : slot.read p.start = .ok (update,p.stop))
      (more : Filled slots fs (update x) y) : Filled (slot :: slots) (some p :: fs) x y

theorem filledLength {slots : List (TextSlot σ)} {fs : List (Option Piece)} {x y : σ}
    (filled : Filled slots fs x y) : fs.length = slots.length := by
  induction filled with
  | nil => rfl
  | absent _ _ ih | present _ _ ih => simp [ih]

theorem filledOfElements {slots : List (TextSlot σ)} {count : String} {index : Nat} {d x : σ}
    {ps : List Piece} : Record.ofElements count index (slots.map byPiece) d ps = .ok (x,[]) ↔
      ∃ missing, Filled slots (ps.map some ++ List.replicate missing none) d x := by
  induction slots generalizing index d ps with
  | nil =>
    constructor
    · intro ok
      cases ok
      exact ⟨0,.nil⟩
    · rintro ⟨missing,filled⟩
      cases ps with
      | nil =>
        cases missing with
        | zero =>
          cases filled
          rfl
        | succ missing => cases filled
      | cons p ps => cases filled
  | cons slot slots ih =>
    cases ps with
    | nil =>
      rw [List.map_cons,Record.ofElements]
      constructor
      · intro ok
        split at ok
        · contradiction
        · rename_i optional
          obtain ⟨missing,filled⟩ := ih.mp ok
          exact ⟨missing + 1,.absent (Bool.eq_false_iff.mpr optional) filled⟩
      · rintro ⟨missing,filled⟩
        cases missing with
        | zero => cases filled
        | succ missing =>
          cases filled with
          | absent optional more =>
            have required : (byPiece slot).required = false := optional
            rw [if_neg (Bool.eq_false_iff.mp required)]
            exact ih.mpr ⟨missing,more⟩
    | cons p ps =>
      rw [List.map_cons,Record.ofElements]
      constructor
      · intro ok
        split at ok
        · contradiction
        · rename_i update took
          obtain ⟨missing,filled⟩ := ih.mp ok
          exact ⟨missing,.present (onPieceIff.mp took) filled⟩
      · rintro ⟨missing,filled⟩
        cases filled with
        | present read more =>
          have took : (byPiece slot).read p = .ok _ := onPieceIff.mpr read
          rw [took]
          exact ih.mpr ⟨missing,more⟩

section Fields
variable {absent : Option α} {name : String} {update : α → σ → σ} {slots : List (TextSlot σ)}
  {f : Option Piece} {fs : List (Option Piece)} {d x : σ}

def field (name : String) (absent : Option α) (r : Reader α) (update : α → σ → σ) : TextSlot σ :=
  ⟨[name],absent.isNone,into r update⟩

theorem soundField (reads : Reads r shape) : SoundSlot (field name absent r update) :=
  soundInto reads.sound reads.blank [name] absent.isNone update

theorem fieldRead (reads : Reads r shape) {p : Piece} {took : σ → σ} :
    (field name absent r update).read p.start = .ok (took,p.stop) ↔ ∃ x, shape p x ∧ took = update x := by
  dsimp only [field]
  constructor
  · intro ok
    obtain ⟨⟨x,ds⟩,read,same⟩ := bindOk ok
    cases same
    exact ⟨x,(reads.iff p x).mp read,rfl⟩
  · rintro ⟨x,value,rfl⟩
    rw [into,(reads.iff p x).mpr value]
    rfl

theorem filledField (reads : Reads r shape) : Filled (field name absent r update :: slots) (f :: fs) d x ↔
    f = none ∧ absent.isSome = true ∧ Filled slots fs d x ∨
      ∃ p y, f = some p ∧ shape p y ∧ Filled slots fs (update y d) x := by
  constructor
  · intro filled
    cases filled with
    | absent optional more => exact .inl ⟨rfl,by simpa [field] using optional,more⟩
    | present read more =>
      obtain ⟨y,value,rfl⟩ := (fieldRead reads).mp read
      exact .inr ⟨_,y,rfl,value,more⟩
  · rintro (⟨rfl,optional,more⟩ | ⟨p,y,rfl,value,more⟩)
    · exact .absent (by simpa [field] using optional) more
    · exact .present ((fieldRead reads).mpr ⟨y,value,rfl⟩) more

theorem filledNil : Filled [] fs d x ↔ fs = [] ∧ d = x := by
  constructor
  · rintro ⟨⟩
    exact ⟨rfl,rfl⟩
  · rintro ⟨rfl,rfl⟩
    exact .nil

theorem fillsField (reads : Reads r shape) {ms : List (String × Piece)} :
    Fills (byPiece (field name absent r update)) [] ms ↔
      ∃ f y, given [name] ms = f.toList ∧ Holds shape absent f y := by
  constructor
  · rintro (⟨empty,optional⟩ | ⟨-,p,took,alone,read⟩)
    · cases absent with
      | none => exact absurd (optional rfl) (by simp)
      | some y => exact ⟨none,y,empty,rfl⟩
    · obtain ⟨y,value,-⟩ := (fieldRead reads).mp (onPieceIff.mp read)
      exact ⟨some p,y,alone,value⟩
  · rintro ⟨f,y,found,holds⟩
    cases f with
    | none =>
      refine .inl ⟨found,fun needed => ?_⟩
      have absent : absent = some y := holds
      simp [byPiece,field,absent] at needed
    | some p =>
      exact .inr ⟨by simp,p,update y,found,onPieceIff.mpr ((fieldRead reads).mpr ⟨y,holds,rfl⟩)⟩

end Fields

def kept (name : String) (absent : Option α) (r : Reader α) : TextSlot α := field name absent r fun x _ => x

def dropped (name : String) (absent : Option β) (r : Reader β) : TextSlot α :=
  field name absent r fun _ x => x

section Kept
variable {absent : Option α} {name : String} {slots : List (TextSlot α)} {f : Option Piece}
  {fs : List (Option Piece)} {d x : α} {ms : List (String × Piece)}

theorem filledKept (reads : Reads r shape) (default : ∀ y, absent = some y → y = d) :
    Filled [kept name absent r] [f] d x ↔ Holds shape absent f x := by
  rw [kept,filledField reads]
  simp only [filledNil]
  cases f with
  | none =>
    cases absent with
    | none => simp [Holds]
    | some y =>
      obtain rfl := default y rfl
      simp [Holds]
  | some p => simp [Holds]

theorem filledDropped (reads : Reads r shape) {slots : List (TextSlot β)} {d x : β} :
    Filled (dropped name absent r :: slots) (f :: fs) d x ↔
      (∃ y, Holds shape absent f y) ∧ Filled slots fs d x := by
  rw [dropped,filledField reads]
  cases f with
  | none => simp [Holds,Option.isSome_iff_exists]
  | some p => simp [Holds]

theorem droppedKeeps {p : Piece} {took : β → β}
    (read : (byPiece (dropped name absent r)).read p = .ok took) : took = id := by
  obtain ⟨⟨_,_⟩,-,same⟩ := bindOk (onPieceIff.mp read)
  cases same
  rfl

theorem keptSets (others : ∀ other ∈ slots, other.name ≠ name →
    ∀ p took, (byPiece other).read p = .ok took → took = id) :
    Sets (slots.map byPiece) (byPiece (kept name absent r)) id (onPiece r) := by
  refine ⟨fun {v took} read => ?_,fun other among different {v took} read => ?_⟩
  · obtain ⟨⟨y,ds⟩,read,same⟩ := bindOk (onPieceIff.mp read)
    cases same
    exact ⟨y,onPieceIff.mpr read,fun _ => rfl⟩
  · obtain ⟨slot,known,rfl⟩ := List.mem_map.mp among
    rw [others slot known different v took read]
    exact fun _ => rfl

theorem toldHolds (default : ∀ y, absent = some y → y = d) {found : List Piece}
    (filled : ∃ f y, found = f.toList ∧ Holds shape absent f y) :
    (found = [] ∧ x = d ∨ ∃ p, found = [p] ∧ shape p x) ↔
      ∃ f, found = f.toList ∧ Holds shape absent f x := by
  constructor
  · rintro (⟨rfl,rfl⟩ | ⟨p,rfl,value⟩)
    · obtain ⟨f,y,empty,holds⟩ := filled
      cases f with
      | none =>
        obtain rfl := default y holds
        exact ⟨none,rfl,holds⟩
      | some p => contradiction
    · exact ⟨some p,rfl,value⟩
  · rintro ⟨f,rfl,holds⟩
    cases f with
    | none => exact .inl ⟨rfl,default x holds⟩
    | some p => exact .inr ⟨p,rfl,holds⟩

theorem keptOfMembers (reads : Reads r shape) (default : ∀ y, absent = some y → y = d)
    (apart : Apart (slots.map byPiece)) (member : kept name absent r ∈ slots)
    (others : ∀ other ∈ slots, other.name ≠ name →
      ∀ p took, (byPiece other).read p = .ok took → took = id) :
    Record.ofMembers (slots.map byPiece) [] d ms = .ok x ↔
      (∀ other ∈ slots, Fills (byPiece other) [] ms) ∧
        ∃ f, given [name] ms = f.toList ∧ Holds shape absent f x := by
  have reads' {p : Piece} {x : α} : onPiece r p = .ok x ↔ shape p x := onPieceIff.trans (reads.iff p x)
  rw [Record.ofMembersAlone apart (List.mem_map_of_mem member) (keptSets others)]
  simp only [List.forall_mem_map,reads']
  exact and_congr_right fun fills => toldHolds default ((fillsField reads).mp (fills _ member))

theorem recordFields {slots : List (TextSlot σ)} {recordName : String} {d x : σ} {cs rest : List Char}
    (all : ∀ slot ∈ slots, SoundSlot slot)
    (byName : ∀ ms, Record.ofMembers (slots.map byPiece) [] d ms = .ok x ↔
      ∃ fs, List.Forall₂ (fun name f => given [name] ms = f.toList) (slots.map Slot.name) fs ∧
        Filled slots fs d x) :
    record recordName slots d cs = .ok (x,rest) ↔
      ∃ fs, Fields (slots.map Slot.name) ⟨cs,rest⟩ fs ∧ Filled slots fs d x := by
  rw [recordIff all]
  constructor
  · rintro (⟨ms,object,ok⟩ | ⟨ps,list,ok⟩)
    · obtain ⟨fs,found,filled⟩ := (byName ms).mp ok
      exact ⟨fs,.object object found,filled⟩
    · obtain ⟨missing,filled⟩ := filledOfElements.mp ok
      exact ⟨_,.list list rfl ((filledLength filled).trans (List.length_map _).symm),filled⟩
  · rintro ⟨fs,fields,filled⟩
    cases fields with
    | object object found => exact .inl ⟨_,object,(byName _).mpr ⟨fs,found,filled⟩⟩
    | list list placed =>
      subst placed
      exact .inr ⟨_,list,filledOfElements.mpr ⟨_,filled⟩⟩

theorem soleIff (reads : Reads r shape) (default : ∀ y, absent = some y → y = d) {recordName : String}
    {cs rest : List Char} : record recordName [kept name absent r] d cs = .ok (x,rest) ↔
      Sole name shape absent ⟨cs,rest⟩ x := by
  have all : ∀ slot ∈ [kept name absent r], SoundSlot slot :=
    List.forall_mem_singleton.mpr (soundField reads)
  have apart : Apart ([kept name absent r].map byPiece) :=
    ⟨by simp [byPiece,kept,field,Slot.name],by simp⟩
  refine (recordFields all fun ms => ?_).trans ?_
  · rw [keptOfMembers reads default apart (List.mem_singleton_self _) (by simp [kept,field,Slot.name])]
    constructor
    · rintro ⟨-,f,found,holds⟩
      exact ⟨[f],.cons found .nil,(filledKept reads default).mpr holds⟩
    · rintro ⟨fs,found,filled⟩
      cases found with
      | @cons _ f _ _ found none =>
        cases none
        have holds := (filledKept reads default).mp filled
        exact ⟨List.forall_mem_singleton.mpr ((fillsField reads).mpr ⟨f,x,found,holds⟩),f,found,holds⟩
  · constructor
    · rintro ⟨fs,fields,filled⟩
      obtain ⟨f,rfl⟩ := List.length_eq_one_iff.mp (filledLength filled)
      exact ⟨f,fields,(filledKept reads default).mp filled⟩
    · rintro ⟨f,fields,holds⟩
      exact ⟨[f],fields,(filledKept reads default).mpr holds⟩

theorem behindIff {r' : Reader β} {shape' : Piece → β → Prop} {absent' : Option β} {first : String}
    (reads' : Reads r' shape') (reads : Reads r shape) (default : ∀ y, absent = some y → y = d)
    (different : first ≠ name) {recordName : String} {cs rest : List Char} :
    record recordName [dropped first absent' r',kept name absent r] d cs = .ok (x,rest) ↔
      Behind first shape' absent' name shape absent ⟨cs,rest⟩ x := by
  have all : ∀ slot ∈ [dropped first absent' r',kept name absent r], SoundSlot slot :=
    List.forall_mem_cons.mpr ⟨soundField reads',List.forall_mem_singleton.mpr (soundField reads)⟩
  have apart : Apart ([dropped first absent' r',kept name absent r].map byPiece) :=
    ⟨by simp [byPiece,kept,dropped,field,Slot.name],
      by simp [byPiece,kept,dropped,field,different,different.symm]⟩
  have others : ∀ other ∈ [dropped first absent' r',kept name absent r], other.name ≠ name →
      ∀ p took, (byPiece other).read p = .ok took → took = id :=
    List.forall_mem_cons.mpr ⟨fun _ _ _ => droppedKeeps,by simp [kept,field,Slot.name]⟩
  have filledIff {f g : Option Piece} :
      Filled [dropped first absent' r',kept name absent r] [f,g] d x ↔
        (∃ y, Holds shape' absent' f y) ∧ Holds shape absent g x :=
    (filledDropped reads').trans (and_congr_right fun _ => filledKept reads default)
  refine (recordFields all fun ms => ?_).trans ?_
  · rw [keptOfMembers reads default apart (.tail _ (.head _)) others]
    constructor
    · rintro ⟨fills,g,found,holds⟩
      obtain ⟨f,y,found',holds'⟩ := (fillsField reads').mp (fills _ List.mem_cons_self)
      exact ⟨[f,g],.cons found' (.cons found .nil),filledIff.mpr ⟨⟨y,holds'⟩,holds⟩⟩
    · rintro ⟨fs,found,filled⟩
      cases found with
      | @cons _ f _ _ found' found =>
        cases found with
        | @cons _ g _ _ found none =>
          cases none
          obtain ⟨⟨y,holds'⟩,holds⟩ := filledIff.mp filled
          refine ⟨List.forall_mem_cons.mpr ⟨?_,List.forall_mem_singleton.mpr ?_⟩,g,found,holds⟩
          · exact (fillsField reads').mpr ⟨f,y,found',holds'⟩
          · exact (fillsField reads).mpr ⟨g,x,found,holds⟩
  · constructor
    · rintro ⟨fs,fields,filled⟩
      obtain ⟨f,g,rfl⟩ := List.length_eq_two.mp (filledLength filled)
      exact ⟨f,g,fields,filledIff.mp filled⟩
    · rintro ⟨f,g,fields,holds⟩
      exact ⟨[f,g],fields,filledIff.mpr holds⟩

end Kept

section Fields
variable {names : List String} {p : Piece} {fs : List (Option Piece)}

theorem fieldsElement (fields : Fields names p fs) : IsElement p.start p.stop := by
  cases fields with
  | object object => exact isObjectElement object
  | list list => exact isListElement list

theorem fieldsStart (fields : Fields names p fs) (cs : List Char) : skip p.start ≠ 'n' :: cs := by
  intro start
  cases fields with
  | object object =>
    obtain ⟨ds,brace,-⟩ := object
    cases start.symm.trans (skipToken brace rfl)
  | list list =>
    obtain ⟨ds,bracket,-⟩ := list
    cases start.symm.trans (skipToken bracket rfl)

theorem recordSkip (name : String) (slots : List (TextSlot σ)) (d : σ) (cs : List Char) :
    record name slots d (skip cs) = record name slots d cs := by
  simp only [record,skipSkip]

theorem listUnique {ps : List Piece} (empty : p.IsList []) (list : p.IsList ps) : ps = [] := by
  obtain ⟨cs,bracket,closed⟩ := empty
  obtain ⟨ds,bracket',elements⟩ := list
  have same := (skipToken bracket rfl).symm.trans (skipToken bracket' rfl)
  cases same
  cases closed with
  | close bracket => exact (Piece.elementsClosed bracket elements).1

theorem soleListed {name : String} {d x : α} {cs : List Char} (bracket : Gap p.start ('[' :: cs)) :
    Sole name shape none p x ↔ Sole name shape (some d) p x ∧ ¬p.IsList [] := by
  have noObject {ms : List (String × Piece)} : ¬p.IsObject ms := by
    rintro ⟨ds,brace,-⟩
    cases (skipToken bracket rfl).symm.trans (skipToken brace rfl)
  constructor
  · rintro ⟨f,fields,holds⟩
    cases f with
    | none => cases holds
    | some q =>
      refine ⟨⟨some q,fields,holds⟩,fun empty => ?_⟩
      cases fields with
      | object object => exact noObject object
      | @list ps missing list placed =>
        obtain rfl := listUnique empty list
        cases missing <;> simp [List.replicate_succ] at placed
  · rintro ⟨⟨f,fields,holds⟩,some_⟩
    cases f with
    | none =>
      cases fields with
      | object object => exact absurd object noObject
      | @list ps missing list placed =>
        cases ps with
        | nil => exact absurd list some_
        | cons q ps => cases placed
    | some q => exact ⟨some q,fields,holds⟩

end Fields

theorem soleReads (recordName name : String) (absent : Option α) {d : α} (reads : Reads r shape)
    (default : ∀ y, absent = some y → y = d) :
    Reads (record recordName [kept name absent r] d) (Sole name shape absent) where
  blank := recordSkip recordName _ d
  element := fun _ _ ⟨_,fields,_⟩ => fieldsElement fields
  iff _ _ := soleIff reads default

theorem behindReads {r' : Reader β} {shape' : Piece → β → Prop} (recordName first : String)
    (absent' : Option β) (name : String) (absent : Option α) {d : α} (reads' : Reads r' shape')
    (reads : Reads r shape) (default : ∀ y, absent = some y → y = d) (different : first ≠ name) :
    Reads (record recordName [dropped first absent' r',kept name absent r] d)
      (Behind first shape' absent' name shape absent) where
  blank := recordSkip recordName _ d
  element := fun _ _ ⟨_,_,fields,_⟩ => fieldsElement fields
  iff _ _ := behindIff reads' reads default different

end Reader
end Querent.Json
