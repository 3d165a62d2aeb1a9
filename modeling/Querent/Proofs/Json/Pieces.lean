import Querent.Proofs.Json.Records

/-! Texts of a given shape. A reader reads a piece of text as a value just when the piece is spelled as the
shape of that reader says. What no shape speaks of may be any JSON. -/
namespace Querent.Json
open Reader (IsElement Sound)

structure Piece where
  start : List Char
  stop : List Char

namespace Piece
variable {α : Type}

inductive Elements : Bool → List Piece → List Char → List Char → Prop where
  | close {first cs rest} (bracket : Gap cs (']' :: rest)) : Elements first [] cs rest
  | element {first p ps cs rest} (comma : Comma first cs p.start) (value : IsElement p.start p.stop)
      (more : Elements false ps p.stop rest) : Elements first (p :: ps) cs rest

inductive Members : Bool → List (String × Piece) → List Char → List Char → Prop where
  | close {first cs rest} (brace : Gap cs ('\x7d' :: rest)) : Members first [] cs rest
  | member {first name p ms cs ds es fs rest} (comma : Comma first cs ds) (quote : Gap ds ('"' :: es))
      (chars : Written name.toList es fs) (colon : Gap fs (':' :: p.start)) (value : IsElement p.start p.stop)
      (more : Members false ms p.stop rest) : Members first ((name,p) :: ms) cs rest

def IsText (p : Piece) (s : String) : Prop := ∃ cs, Gap p.start ('"' :: cs) ∧ Written s.toList cs p.stop

def IsList (p : Piece) (ps : List Piece) : Prop :=
  ∃ cs, Gap p.start ('[' :: cs) ∧ Elements true ps cs p.stop

def IsObject (p : Piece) (ms : List (String × Piece)) : Prop :=
  ∃ cs, Gap p.start ('\x7b' :: cs) ∧ Members true ms cs p.stop

inductive Optional (shape : Piece → α → Prop) (p : Piece) : Option α → Prop where
  | null (word : Gap p.start ('n' :: 'u' :: 'l' :: 'l' :: p.stop)) : Optional shape p none
  | value {x} (value : shape p x) : Optional shape p (some x)

def ListOf (shape : Piece → α → Prop) (p : Piece) (xs : List α) : Prop :=
  ∃ ps, p.IsList ps ∧ List.Forall₂ shape ps xs

def Whole (shape : Piece → α → Prop) (text : List Char) (x : α) : Prop :=
  ∃ rest, shape ⟨text,rest⟩ x ∧ Gap rest []

end Piece

namespace Reader
open Piece (Elements Optional ListOf)

variable {α : Type} {r : Reader α} {shape : Piece → α → Prop}

structure Reads (r : Reader α) (shape : Piece → α → Prop) : Prop where
  blank : ∀ cs, r (skip cs) = r cs
  element : ∀ p x, shape p x → IsElement p.start p.stop
  iff : ∀ p x, r p.start = .ok (x,p.stop) ↔ shape p x

theorem Reads.sound (reads : Reads r shape) : Sound r := by
  intro cs x rest ok
  obtain ⟨value⟩ := reads.element ⟨cs,rest⟩ x ((reads.iff ⟨cs,rest⟩ x).mp ok)
  exact ⟨_,value⟩

theorem skipSkip (cs : List Char) : skip (skip cs) = skip cs := (skipOfGap (gapSkip cs)).symm

theorem valueSkip (depth : Nat) (cs : List Char) : value depth (skip cs) = value depth cs := by
  cases depth <;> simp only [value,valueWith,skipSkip]

theorem textReads : Reads text Piece.IsText where
  blank cs := by simp only [text,skipSkip]
  element := by
    rintro p s ⟨cs,quote,chars⟩
    exact ⟨.text (s := s) quote (quotableOfWritten chars)⟩
  iff p s := by
    constructor
    · intro ok
      unfold text at ok
      split at ok
      · contradiction
      · rename_i quote
        exact ⟨_,gapOfSkip quote,stringSound ok⟩
      · exact absurd ok (unexpectedFails _ _ _)
    · rintro ⟨cs,quote,chars⟩
      simp only [text,skipToken quote rfl]
      exact stringWritten chars

def NeverNull (shape : Piece → α → Prop) : Prop := ∀ p x cs, shape p x → skip p.start ≠ 'n' :: cs

theorem optionalReads (reads : Reads r shape) (never : NeverNull shape) :
    Reads (optional r) (Optional shape) where
  blank cs := by simp only [optional,skipSkip]
  element := by
    intro p x value
    cases value with
    | null word => exact ⟨.null word⟩
    | value value => exact reads.element p _ value
  iff p x := by
    constructor
    · intro ok
      unfold optional at ok
      split at ok
      · rename_i start
        have gap := gapOfSkip start
        obtain rfl : x = none := wordValue ok
        rw [wordSound ok] at gap
        exact .null gap
      · obtain ⟨⟨y,ds⟩,read,same⟩ := bindOk ok
        cases same
        rw [reads.blank] at read
        exact .value ((reads.iff p y).mp read)
    · intro value
      cases value with
      | null word => simp [optional,skipToken word rfl,Reader.word]
      | @value x value =>
        have read := (reads.iff p x).mpr value
        unfold optional
        split
        · rename_i start
          exact absurd start (never p x _ value)
        · rw [reads.blank,read]
          rfl

theorem optionalTextReads : Reads (optional text) (Optional Piece.IsText) := by
  refine optionalReads textReads ?_
  rintro p s cs ⟨ds,quote,-⟩ start
  cases start.symm.trans (skipToken quote rfl)

theorem itemsOfElements {first : Bool} {ps : List Piece} {cs rest : List Char}
    (elements : Elements first ps cs rest) : Items IsElement ']' first cs rest := by
  induction elements with
  | close bracket => exact .close bracket
  | element comma value _ ih => exact .item comma value ih

theorem isListElement {p : Piece} {ps : List Piece} (list : p.IsList ps) :
    IsElement p.start p.stop := by
  obtain ⟨cs,bracket,elements⟩ := list
  obtain ⟨xs,spells⟩ := itemsIffElements.mp (itemsOfElements elements)
  exact ⟨.array bracket spells⟩

theorem elementsPieces (reads : Reads r shape) {fuel : Nat} {first : Bool} {xs : List α} {cs rest : List Char}
    (ok : elementsUpTo r fuel first cs = .ok (xs,rest)) :
    ∃ ps, Elements first ps cs rest ∧ List.Forall₂ shape ps xs := by
  induction fuel generalizing first xs cs with
  | zero => contradiction
  | succ fuel ih =>
    unfold elementsUpTo at ok
    split at ok
    · contradiction
    · rename_i start
      cases ok
      exact ⟨[],.close (gapOfSkip start),.nil⟩
    · rename_i c ds _ start
      -- Whether a comma stands before it or not, the element is a piece from there on.
      have further : ∀ before, Comma first cs before →
          (r before >>= fun x => elementsUpTo r fuel false x.2 >>= fun xs => .ok (x.1 :: xs.1,xs.2)) =
            .ok (xs,rest) →
          ∃ ps, Elements first ps cs rest ∧ List.Forall₂ shape ps xs := by
        intro before comma ok
        obtain ⟨⟨x,es⟩,read,ok⟩ := bindOk ok
        obtain ⟨⟨ys,fs⟩,more,same⟩ := bindOk ok
        cases same
        have value := (reads.iff ⟨before,es⟩ x).mp read
        obtain ⟨ps,elements,values⟩ := ih more
        exact ⟨_,.element comma (reads.element _ x value) elements,.cons value values⟩
      cases first with
      | true =>
        refine further cs .first ?_
        rw [← reads.blank cs,start]
        exact ok
      | false =>
        dsimp only at ok
        rw [if_neg Bool.false_ne_true] at ok
        split at ok
        · rename_i comma
          have comma : Comma false cs ds := .comma (comma ▸ gapOfSkip start)
          split at ok
          · contradiction
          · contradiction
          · refine further ds comma ?_
            rw [← reads.blank ds]
            exact ok
        · contradiction

theorem elementsOfPieces (reads : Reads r shape) {fuel : Nat} {first : Bool} {ps : List Piece} {xs : List α}
    {cs rest : List Char} (elements : Elements first ps cs rest) (values : List.Forall₂ shape ps xs)
    (enough : cs.length < fuel) : elementsUpTo r fuel first cs = .ok (xs,rest) := by
  induction fuel generalizing first ps xs cs with
  | zero => contradiction
  | succ fuel ih =>
    cases elements with
    | close bracket =>
      cases values
      simp only [elementsUpTo,skipToken bracket rfl]
    | @element _ p _ _ _ comma element more =>
      cases values with
      | cons value values =>
        obtain ⟨spells⟩ := element
        have shorter := spellsShorter spells
        have shorter' := commaLength comma
        obtain ⟨c,ds,start,list,-⟩ := valueStart spells
        have read : r (c :: ds) = _ := start ▸ (reads.blank p.start).trans ((reads.iff p _).mpr value)
        have others := ih more values (by omega)
        cases comma with
        | first => simp [elementsUpTo,start,read,others,bind,Except.bind]
        | comma comma => simp [elementsUpTo,skipToken comma rfl,start,list,read,others,bind,Except.bind]

theorem listReads (reads : Reads r shape) : Reads (list r) (ListOf shape) where
  blank cs := by simp only [list,skipSkip]
  element := fun _ _ ⟨_,isList,_⟩ => isListElement isList
  iff p xs := by
    constructor
    · intro ok
      unfold list at ok
      split at ok
      · contradiction
      · rename_i bracket
        obtain ⟨ps,elements,values⟩ := elementsPieces reads ok
        exact ⟨ps,⟨_,gapOfSkip bracket,elements⟩,values⟩
      · exact absurd ok (unexpectedFails _ _ _)
    · rintro ⟨ps,⟨cs,bracket,elements⟩,values⟩
      simp only [list,skipToken bracket rfl]
      exact elementsOfPieces reads elements values (Nat.lt_succ_self _)

theorem documentIff (reads : Reads r shape) {cs : List Char} {x : α} :
    document r cs = .ok x ↔ Piece.Whole shape cs x := by
  constructor
  · intro ok
    obtain ⟨⟨y,rest⟩,read,ok⟩ := bindOk ok
    dsimp only at ok
    split at ok
    · rename_i blank
      cases ok
      exact ⟨rest,(reads.iff ⟨cs,rest⟩ x).mp read,gapOfSkip blank⟩
    · contradiction
  · rintro ⟨rest,value,blank⟩
    have read := (reads.iff ⟨cs,rest⟩ x).mpr value
    have empty : skip rest = [] := skipOfGap blank
    simp [document,read,empty,bind,Except.bind]

end Reader
end Querent.Json
