import Querent.Proofs.Json.Numbers

/-! Reading values: what is read is spelled there, and a value whose text gives it back is read as it
was. -/
namespace Querent.Json

theorem numeralOfGap {c : Char} (blank : Reader.isGap c = true) : isNumeral c = false := by
  simp only [Reader.isGap,Bool.or_eq_true,beq_iff_eq] at blank
  rcases blank with ((rfl | rfl) | rfl) | rfl <;> rfl

structure Opening (c : Char) : Prop where
  token : Reader.isGap c = false
  null : c ≠ 'n'
  yes : c ≠ 't'
  no : c ≠ 'f'
  quote : c ≠ '"'
  array : c ≠ '['
  object : c ≠ '\x7b'
  arrayEnd : c ≠ ']'
  objectEnd : c ≠ '\x7d'
  comma : c ≠ ','

theorem openingNumeral {c : Char} (start : c = '-' ∨ c.isDigit = true) : Opening c := by
  rcases start with rfl | digit
  · constructor <;> decide
  · have token : Reader.isGap c = false := by
      cases blank : Reader.isGap c with
      | false => rfl
      | true => simpa [isNumeral,digit] using numeralOfGap blank
    constructor
    · exact token
    all_goals
      rintro rfl
      contradiction

theorem valueStart {l : Leaves} {j : Json} {cs rest : List Char} (spells : Spells l (.value j) cs rest) :
    ∃ c ds, Reader.skip cs = c :: ds ∧ c ≠ ']' ∧ c ≠ '\x7d' ∧ c ≠ ',' ∧
      Spells l (.value j) (c :: ds) rest := by
  cases spells with
  | null gap => exact ⟨_,_,Reader.skipToken gap rfl,by decide,by decide,by decide,.null .none⟩
  | yes gap => exact ⟨_,_,Reader.skipToken gap rfl,by decide,by decide,by decide,.yes .none⟩
  | no gap => exact ⟨_,_,Reader.skipToken gap rfl,by decide,by decide,by decide,.no .none⟩
  | number gap number =>
    obtain ⟨c,ds,rfl,start⟩ := l.numberStart number
    have opening := openingNumeral start
    exact ⟨c,ds,Reader.skipToken gap opening.token,opening.arrayEnd,opening.objectEnd,opening.comma,
      .number .none number⟩
  | text gap chars =>
    exact ⟨_,_,Reader.skipToken gap rfl,by decide,by decide,by decide,.text .none chars⟩
  | array gap elements =>
    exact ⟨_,_,Reader.skipToken gap rfl,by decide,by decide,by decide,.array .none elements⟩
  | object gap members =>
    exact ⟨_,_,Reader.skipToken gap rfl,by decide,by decide,by decide,.object .none members⟩

theorem valueOfGap {l : Leaves} {j : Json} {cs ds rest : List Char} (gap : Gap cs ds)
    (spells : Spells l (.value j) ds rest) : Spells l (.value j) cs rest := by
  cases spells with
  | null word => exact .null (gapTrans gap word)
  | yes word => exact .yes (gapTrans gap word)
  | no word => exact .no (gapTrans gap word)
  | number more number => exact .number (gapTrans gap more) number
  | text quote chars => exact .text (gapTrans gap quote) chars
  | array bracket elements => exact .array (gapTrans gap bracket) elements
  | object brace members => exact .object (gapTrans gap brace) members

theorem partedOfGap {c : Char} {cs rest : List Char} (gap : Gap cs (c :: rest))
    (other : isNumeral c = false) : Parted cs := by
  cases gap with
  | none =>
    rintro _ ⟨⟩
    exact other
  | blank blank =>
    rintro _ ⟨⟩
    exact numeralOfGap blank

theorem partedOfGapEnd {cs : List Char} (gap : Gap cs []) : Parted cs := by
  cases gap with
  | none => rintro _ ⟨⟩
  | blank blank =>
    rintro _ ⟨⟩
    exact numeralOfGap blank

theorem elementsParted {l : Leaves} {xs : List Json} {cs rest : List Char}
    (spells : Spells l (.elements false xs) cs rest) : Parted cs := by
  cases spells with
  | noElement bracket => exact partedOfGap bracket rfl
  | element comma =>
    cases comma with
    | comma comma => exact partedOfGap comma rfl

theorem membersParted {l : Leaves} {ms : List (String × Json)} {cs rest : List Char}
    (spells : Spells l (.members false ms) cs rest) : Parted cs := by
  cases spells with
  | noMember brace => exact partedOfGap brace rfl
  | member comma =>
    cases comma with
    | comma comma => exact partedOfGap comma rfl

theorem setMemberNew {name : String} {v : Json} {done : List (String × Json)}
    (new : name ∉ done.map (·.1)) : setMember name v done = done ++ [(name,v)] := by
  induction done with
  | nil => rfl
  | cons m done ih =>
    simp only [List.map_cons,List.mem_cons,not_or] at new
    rw [setMember,if_neg (Ne.symm new.1),ih new.2]
    rfl

theorem settleDistinct {done ms : List (String × Json)} (distinct : ((done ++ ms).map (·.1)).Nodup) :
    ms.foldl (fun done m => setMember m.1 m.2 done) done = done ++ ms := by
  induction ms generalizing done with
  | nil => simp
  | cons m ms ih =>
    have new : m.1 ∉ done.map (·.1) := by
      rw [List.map_append,List.nodup_append] at distinct
      exact fun member => distinct.2.2 m.1 member m.1 (by simp) rfl
    rw [List.foldl_cons,setMemberNew new,ih (by simpa using distinct)]
    simp

namespace Reader

theorem colonOfGap {cs rest : List Char} (gap : Gap cs (':' :: rest)) : colon cs = .ok rest := by
  simp only [colon,skipToken gap rfl]

theorem stringWritten {s : String} {cs rest : List Char} (written : Written s.toList cs rest) :
    string cs = .ok (s,rest) := by
  simp [string,stringOfWritten written (Nat.lt_succ_self _),bind,Except.bind,String.ofList_toList]

theorem memberNameOf {first : Bool} {s : String} {cs ds es rest : List Char} (comma : Comma first cs ds)
    (quote : Gap ds ('"' :: es)) (written : Written s.toList es rest) :
    memberName first cs = .ok (some s,rest) := by
  have read := stringWritten written
  unfold memberName
  cases comma with
  | first => simp [skipToken quote rfl,read,bind,Except.bind]
  | comma comma => simp [skipToken comma rfl,skipToken quote rfl,read,bind,Except.bind]

theorem memberNameEnd {cs rest : List Char} (brace : Gap cs ('\x7d' :: rest)) (first : Bool) :
    memberName first cs = .ok (none,rest) := by
  simp only [memberName,skipToken brace rfl]

theorem optionSome {ε α : Type} {x : Except ε α} {a : α} : x.toOption = some a ↔ x = .ok a := by
  cases x <;> simp [Except.toOption]

def Yields {α : Type} (x : Except Fault (α × List Char)) (y : Option α) (rest : List Char) : Prop :=
  x.toOption = y.map (·,rest)

section Yields
variable {α β σ : Type}

theorem yieldsOk {x : Except Fault (α × List Char)} {a : α} {rest : List Char}
    (yields : Yields x (some a) rest) : x = .ok (a,rest) :=
  optionSome.mp yields

theorem yieldsBind {x : Except Fault (α × List Char)} {y : Option α} {mid : List Char}
    {f : α × List Char → Except Fault (β × List Char)} {g : α → Option β} {rest : List Char}
    (yields : Yields x y mid) (next : ∀ a, y = some a → Yields (f (a,mid)) (g a) rest) :
    Yields (x >>= f) (y.bind g) rest := by
  cases y with
  | none =>
    cases x with
    | error fault => rfl
    | ok b => contradiction
  | some a =>
    rw [yieldsOk yields]
    exact next a rfl

theorem membersOfSpells {step : String → σ → Reader σ} (take : String → Json → σ → Option σ)
    {ms : List (String × Json)} {fuel : Nat} {first : Bool} {state : σ} {cs rest : List Char}
    (steps : ∀ m ∈ ms, ∀ state cs ds rest, Gap cs (':' :: ds) → Spells .exact (.value m.2) ds rest →
      Parted rest → Yields (step m.1 state cs) (take m.1 m.2 state) rest)
    (spells : Spells .exact (.members first ms) cs rest) (enough : cs.length < fuel) :
    Yields (membersUpTo step fuel first state cs)
      (ms.foldlM (fun state m => take m.1 m.2 state) state) rest := by
  induction fuel generalizing ms first state cs with
  | zero => contradiction
  | succ fuel ih =>
    cases spells with
    | noMember brace =>
      simp only [membersUpTo,memberNameEnd brace,bind,Except.bind]
      rfl
    | member comma quote chars colon value more =>
      -- What follows the value does not carry it on, and the fuel outlasts what is left.
      have parted := membersParted more
      have inValue := spellsShorter value
      have inName := quotableShorter (quotableOfWritten chars)
      have atQuote := gapLength quote
      have atColon := gapLength colon
      have atComma := commaLength comma
      simp only [membersUpTo,memberNameOf comma quote chars,bind,Except.bind]
      refine yieldsBind (steps _ List.mem_cons_self state _ _ _ colon value parted) fun next _ => ?_
      exact ih (fun m member => steps m (List.mem_cons_of_mem _ member)) more
        (by simp only [List.length_cons] at *; omega)

end Yields

theorem elementsOfSpells {item : Reader Json} {xs : List Json} {fuel : Nat} {first : Bool}
    {cs rest : List Char}
    (items : ∀ x ∈ xs, ∀ cs rest, Spells .exact (.value x) cs rest → Parted rest →
      item cs = .ok (x,rest))
    (spells : Spells .exact (.elements first xs) cs rest) (enough : cs.length < fuel) :
    elementsUpTo item fuel first cs = .ok (xs,rest) := by
  induction fuel generalizing xs first cs with
  | zero => contradiction
  | succ fuel ih =>
    cases spells with
    | noElement bracket => simp only [elementsUpTo,skipToken bracket rfl]
    | element comma value more =>
      have shorter := spellsShorter value
      have shorter' := commaLength comma
      have others : elementsUpTo item fuel false _ = .ok (_,rest) :=
        ih (fun x member => items x (List.mem_cons_of_mem _ member)) more (by omega)
      obtain ⟨c,ds,start,list,object,other,value⟩ := valueStart value
      have read := items _ List.mem_cons_self _ _ value (elementsParted more)
      cases comma with
      | first => simp [elementsUpTo,start,read,others,bind,Except.bind]
      | comma comma => simp [elementsUpTo,skipToken comma rfl,start,list,read,others,bind,Except.bind]

theorem valueOfInteger {list object : Reader Json} {i : Int} {cs rest : List Char} (integer : IsInteger i)
    (gap : Gap cs (intText i ++ rest)) (parted : Parted rest) :
    valueWith list object cs = .ok (.number (.integer i),rest) := by
  obtain ⟨low,high⟩ := integer
  have count63 : Bits.count 63 = 9223372036854775808 := rfl
  have count64 : Bits.count 64 = 18446744073709551616 := rfl
  unfold intText at gap
  split at gap
  · have read := numberOfNegative (n := i.natAbs) (by omega) (by omega) parted
    rw [show -(i.natAbs : Int) = i by omega] at read
    simp [valueWith,skipToken gap rfl,read,bind,Except.bind]
  · have read := numberOfDecimal (n := i.natAbs) (by omega) parted
    rw [show (i.natAbs : Int) = i by omega] at read
    obtain ⟨c,ds,start,digit⟩ := digitsStart
      (digitsOfAll Nat.toDigits_ne_nil (digitsOfDecimal i.natAbs) rest)
    rw [start] at gap read
    have opening := openingNumeral (.inr digit)
    have minus : c ≠ '-' := by rintro rfl; contradiction
    simp [valueWith,skipToken gap opening.token,opening.null,opening.yes,opening.no,minus,digit,read,
      bind,Except.bind]

theorem scalarOfSpells {list object : Reader Json} {j : Json} {cs rest : List Char}
    (spells : Spells .exact (.value j) cs rest) (faithful : Faithful 0 j) (parted : Parted rest) :
    valueWith list object cs = .ok (j,rest) := by
  cases spells with
  | null gap | yes gap | no gap => simp [valueWith,skipToken gap rfl,word]
  | number gap number =>
    obtain ⟨i,rfl,rfl⟩ := number
    cases faithful with
    | number integer => exact valueOfInteger integer gap parted
  | text quote chars => simp [valueWith,skipToken quote rfl,stringWritten chars,bind,Except.bind]
  | array | object => cases faithful

theorem objectOfSpells {item : Reader Json} {ms : List (String × Json)} {cs rest : List Char}
    (items : ∀ m ∈ ms, ∀ cs rest, Spells .exact (.value m.2) cs rest → Parted rest →
      item cs = .ok (m.2,rest))
    (distinct : (ms.map (·.1)).Nodup) (spells : Spells .exact (.members true ms) cs rest) :
    members (fun name done cs => do
      let cs ← colon cs
      let (v, cs) ← item cs
      .ok (setMember name v done,cs)) [] cs = .ok (ms,rest) := by
  have whole : ms.foldlM (fun done m => some (setMember m.1 m.2 done)) [] = some ms :=
    List.foldlM_pure.trans (congrArg some (settleDistinct (by simpa using distinct)))
  refine yieldsOk (whole ▸ membersOfSpells (fun name v done => some (setMember name v done)) ?_ spells
    (Nat.lt_succ_self _))
  intro m member done cs ds rest gap value parted
  simp only [colonOfGap gap,items m member ds rest value parted,bind,Except.bind]
  rfl

theorem valueOfSpells {depth : Nat} {j : Json} {cs rest : List Char}
    (spells : Spells .exact (.value j) cs rest) (faithful : Faithful depth j) (parted : Parted rest) :
    value depth cs = .ok (j,rest) := by
  induction depth generalizing j cs rest with
  | zero => exact scalarOfSpells spells faithful parted
  | succ depth ih =>
    cases faithful with
    | null => exact scalarOfSpells spells .null parted
    | bool => exact scalarOfSpells spells .bool parted
    | number integer => exact scalarOfSpells spells (.number integer) parted
    | text => exact scalarOfSpells spells .text parted
    | array all =>
      cases spells with
      | array bracket more =>
        have read := elementsOfSpells
          (fun x member _ _ spells parted => ih spells (all x member) parted) more
          (Nat.lt_succ_self _)
        simp [value,valueWith,skipToken bracket rfl,elements,read,bind,Except.bind]
    | object distinct all =>
      cases spells with
      | object brace more =>
        have read := objectOfSpells
          (fun m member _ _ spells parted => ih spells (all m member) parted) distinct more
        simp only [value,valueWith,skipToken brace rfl,List.drop_one,List.tail_cons]
        exact congrArg (fun x => x >>= fun ms => Except.ok (Json.object ms.1,ms.2)) read

end Reader

theorem readOfDocument {j : Json} {cs : List Char} (spells : Document .exact j cs)
    (faithful : Faithful Reader.maxDepth j) : read cs = .ok j := by
  obtain ⟨rest,spells,blank⟩ := spells
  have empty : Reader.skip rest = [] := Reader.skipOfGap blank
  simp [read,Reader.document,Reader.valueOfSpells spells faithful (partedOfGapEnd blank),empty,bind,
    Except.bind]

end Querent.Json
