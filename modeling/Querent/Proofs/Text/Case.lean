import Querent.Proofs.Text.Utf8
import Querent.Text.Blank
import Querent.Text.Case

/-! A part of a text in lower case. Letters are lower-cased one by one, except the capital sigma, which
looks at the letters around it: a part reads in the text as it reads alone if no capital sigma of it
ends a word in the one and not in the other. -/
namespace Querent.Text

-- As in `lowerFrom`, what stands before is given with the nearest character first.
def endsWord (before after : List Char) : Bool := meetsCased before && !meetsCased after

def lowerWithin : (before part after : List Char) → List Char
  | _, [], _ => []
  | before, c :: rest, after =>
    let here := if c = 'Σ' then if endsWord before (rest ++ after) then ['ς'] else ['σ'] else lowerChar c
    here ++ lowerWithin (c :: before) rest after

theorem lowerFromAppend (before part after : List Char) :
    lowerFrom before (part ++ after) =
      lowerWithin before part after ++ lowerFrom (part.reverse ++ before) after := by
  induction part generalizing before with
  | nil => rfl
  | cons c rest ih => simp [lowerFrom,lowerWithin,endsWord,ih]

theorem lowerAlone (part : List Char) : lower part = lowerWithin [] part [] := by
  have whole := lowerFromAppend [] part []
  simpa [lower,lowerFrom] using whole

/-- No capital sigma of the part ends a word in the text unless it does so in the part alone, nor the
other way round. -/
def Steady (before part after : List Char) : Prop :=
  ∀ first last, part = first ++ 'Σ' :: last →
    endsWord (first.reverse ++ before.reverse) (last ++ after) = endsWord first.reverse last

theorem sigmaCons {c : Char} {rest : List Char} {holds : List Char → List Char → Prop} :
    (∀ first last, c :: rest = first ++ 'Σ' :: last → holds first last) ↔
      (c = 'Σ' → holds [] rest) ∧
        ∀ first last, rest = first ++ 'Σ' :: last → holds (c :: first) last := by
  constructor
  · intro all
    exact ⟨fun sigma => all [] rest (by simp [sigma]),fun first last same => all _ last (by simp [same])⟩
  · intro ⟨here,later⟩ first last same
    cases first with
    | nil =>
      cases same
      exact here rfl
    | cons d first =>
      cases same
      exact later first last rfl

theorem sigmaForm {one other : Bool} {cs ds : List Char} :
    (if one then ['ς'] else ['σ']) ++ cs = (if other then ['ς'] else ['σ']) ++ ds ↔
      one = other ∧ cs = ds := by
  cases one <;> cases other <;> simp

-- Along the part, `inner` is what was passed of it and `before` what the text has in front of it.
theorem lowerWithinIff (inner before part after : List Char) :
    lowerWithin (inner ++ before) part after = lowerWithin inner part [] ↔
      ∀ first last, part = first ++ 'Σ' :: last →
        endsWord (first.reverse ++ (inner ++ before)) (last ++ after) =
          endsWord (first.reverse ++ inner) last := by
  induction part generalizing inner with
  | nil => simp [lowerWithin]
  | cons c rest ih =>
    have later := ih (c :: inner)
    rw [List.cons_append] at later
    rw [sigmaCons]
    simp only [lowerWithin,List.append_nil,List.reverse_nil,List.nil_append,List.reverse_cons,
      List.append_assoc,List.singleton_append,← later]
    by_cases sigma : c = 'Σ'
    · simp only [sigma,if_true,sigmaForm,true_implies]
    · simp [sigma]

theorem lowerWithinSteady {before part after : List Char} :
    lowerWithin before.reverse part after = lower part ↔ Steady before part after := by
  have same := lowerWithinIff [] before.reverse part after
  simpa [lowerAlone,Steady] using same

theorem lowerInside {before part after : List Char} (steady : Steady before part after) :
    lower part <:+: lower (before ++ part ++ after) := by
  refine ⟨lowerWithin [] before (part ++ after),lowerFrom (part.reverse ++ before.reverse) after,?_⟩
  rw [← lowerWithinSteady.mpr steady]
  simp [lower,lowerFromAppend]

theorem steadyWithoutSigma {part : List Char} (none : 'Σ' ∉ part) (before after : List Char) :
    Steady before part after := by
  intro first last same
  simp [same] at none

theorem meetsCasedAppend (near far : List Char) :
    meetsCased (near ++ far) = if near.all isPassedOver then meetsCased far else meetsCased near := by
  induction near with
  | nil => simp
  | cons c near ih =>
    by_cases passed : isPassedOver c
    · simpa [meetsCased,passed] using ih
    · simp [meetsCased,passed]

theorem meetsCasedPassed {cs : List Char} (passed : cs.all isPassedOver) : meetsCased cs = false := by
  have nothing := meetsCasedAppend cs []
  simpa [passed,meetsCased] using nothing

theorem meetsCasedBeside {far : List Char} (uncased : meetsCased far = false) (near : List Char) :
    meetsCased (near ++ far) = meetsCased near := by
  rw [meetsCasedAppend]
  split
  · rename_i passed
    rw [uncased,meetsCasedPassed passed]
  · rfl

theorem steadyWord {before after : List Char} (start : meetsCased before.reverse = false)
    (finish : meetsCased after = false) (part : List Char) : Steady before part after := by
  intro first last _
  simp only [endsWord,meetsCasedBeside start,meetsCasedBeside finish]

theorem lowerAscii {part : List Char} (ascii : ∀ c ∈ part, c.toNat < 128) :
    lower part = part.map Char.toLower := by
  have any (before : List Char) : lowerFrom before part = part.map Char.toLower := by
    induction part generalizing before with
    | nil => rfl
    | cons c rest ih =>
      have small := ascii c List.mem_cons_self
      have plain : c ≠ 'Σ' := by
        intro sigma
        simp [sigma] at small
      simp [lowerFrom,plain,lowerChar,small,ih fun d member => ascii d (List.mem_cons_of_mem _ member)]
  exact any []

def isOwn (c : Char) : Bool := 'a'.toNat ≤ c.toNat && c.toNat ≤ 'z'.toNat && c != 'k'

theorem ownBounds {c : Char} (own : isOwn c = true) : 97 ≤ c.toNat ∧ c.toNat ≤ 122 ∧ c.toNat ≠ 107 := by
  simp only [isOwn,Bool.and_eq_true,bne_iff_ne,decide_eq_true_eq] at own
  obtain ⟨⟨low,high⟩,other⟩ := own
  exact ⟨low,high,fun same => other (Char.toNat_inj.mp same)⟩

theorem runsBeyond : ∀ run ∈ lowerRuns, 128 ≤ run.first + run.shift ∨ run = ⟨8490,8490,1,-8383⟩ := by
  decide +kernel

theorem ofNatForeign {n : Nat} (foreign : 128 ≤ n ∨ n = 107) : isOwn (Char.ofNat n) = false := by
  rw [← Bool.not_eq_true]
  intro own
  have bounds := ownBounds own
  by_cases valid : n.isValidChar
  · rw [Utf8.toNatOfNumber valid] at bounds
    omega
  · rw [Char.ofNat,dif_neg valid] at bounds
    exact absurd bounds.1 (by decide)

theorem lowerCharForeign {c : Char} (beyond : 128 ≤ c.toNat) : ∃ d ∈ lowerChar c, isOwn d = false := by
  unfold lowerChar
  rw [if_neg (by omega)]
  split
  · exact ⟨'\u0307',by simp,by decide⟩
  split
  · rename_i run found
    refine ⟨_,List.mem_singleton_self _,ofNatForeign ?_⟩
    have holds := List.find?_some found
    simp only [LowerRun.holds,Bool.and_eq_true,decide_eq_true_eq] at holds
    rcases runsBeyond run (List.mem_of_find?_eq_some found) with beyond | rfl
    · omega
    · simp only at holds ⊢
      omega
  · refine ⟨c,List.mem_singleton_self c,?_⟩
    rw [← Bool.not_eq_true]
    intro own
    have := ownBounds own
    omega

theorem ownAscii {before cs : List Char} (own : ∀ d ∈ lowerFrom before cs, isOwn d = true) :
    ∀ c ∈ cs, c.toNat < 128 := by
  induction cs generalizing before with
  | nil => nofun
  | cons c rest ih =>
    simp only [lowerFrom,List.forall_mem_append] at own
    obtain ⟨here,later⟩ := own
    refine List.forall_mem_cons.mpr ⟨Nat.lt_of_not_le fun large => ?_,ih later⟩
    split at here
    · split at here <;> simp [isOwn] at here
    · obtain ⟨d,member,foreign⟩ := lowerCharForeign large
      rw [here d member] at foreign
      contradiction

structure Letter (c : Char) : Prop where
  ascii : c.toNat < 128
  visible : isBlank c = false

theorem ownLetter {c : Char} (own : isOwn c.toLower = true) : Letter c := by
  have bounds := ownBounds own
  have letter : 65 ≤ c.toNat ∧ c.toNat ≤ 122 := by
    unfold Char.toLower at bounds
    split at bounds
    · rename_i upper
      have low : 65 ≤ c.toNat := upper.1
      have high : c.toNat ≤ 90 := upper.2
      omega
    · omega
  refine ⟨by omega,?_⟩
  simp only [isBlank,blanks,withinCons,withinNil,Span.holds,Bool.or_eq_false_iff,Bool.and_eq_false_iff,
    decide_eq_false_iff_not,and_true]
  omega

theorem lowerOwn {cs word : List Char} (own : ∀ d ∈ word, isOwn d = true) :
    lower cs = word ↔ cs.map Char.toLower = word := by
  constructor
  · rintro rfl
    exact (lowerAscii (ownAscii own)).symm
  · rintro rfl
    refine lowerAscii fun c member => ?_
    exact (ownLetter (own _ (List.mem_map_of_mem member))).ascii

theorem lowerCharSome (c : Char) : lowerChar c ≠ [] := by
  unfold lowerChar
  split
  · simp
  · split
    · simp
    · split <;> simp

theorem lowerSome {cs : List Char} (some : cs ≠ []) : lower cs ≠ [] := by
  cases cs with
  | nil => exact absurd rfl some
  | cons c rest =>
    by_cases sigma : c = 'Σ'
    · simp [lower,lowerFrom,sigma,meetsCased]
    · simp [lower,lowerFrom,sigma,lowerCharSome]

end Querent.Text
