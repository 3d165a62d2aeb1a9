import Mathlib.Data.List.Forall2
import Querent.Json.Shape
import Querent.Proofs.Json.Passing

/-! Records read from text. Where each slot reads from the text of a value what it reads from the value,
so does the whole record; and what a record is read from is JSON. -/
namespace Querent.Json.Reader
open Record (Slot Update)

variable {α σ : Type}

theorem unexpectedFails (expected : String) (cs : List Char) (x : α × List Char) :
    unexpected expected cs ≠ .ok x := by
  intro ok
  unfold unexpected at ok
  dsimp only at ok
  split at ok
  · contradiction
  split at ok
  · contradiction
  split at ok
  · contradiction
  split at ok <;> contradiction

theorem yieldsNone {x : Except Fault (α × List Char)} (fails : ∀ y, x ≠ .ok y) (rest : List Char) :
    Yields x none rest := by
  cases x with
  | error fault => rfl
  | ok y => exact absurd rfl (fails y)

theorem documentYields {r : Reader α} {y : Option α} {j : Json} {cs : List Char}
    (reads : ∀ rest, Spells .exact (.value j) cs rest → Yields (r cs) y rest)
    (spells : Document .exact j cs) : (document r cs).toOption = y := by
  obtain ⟨rest,spells,blank⟩ := spells
  have empty : skip rest = [] := skipOfGap blank
  unfold document
  cases y with
  | none =>
    cases read : r cs with
    | error fault => rfl
    | ok x =>
      have none := reads rest spells
      rw [read] at none
      contradiction
  | some x =>
    rw [yieldsOk (reads rest spells)]
    simp only [bind,Except.bind,empty]
    rfl

theorem valueHead {l : Leaves} {j : Json} {cs rest : List Char} (spells : Spells l (.value j) cs rest) :
    ∃ c ds, skip cs = c :: ds ∧ (c = '"' → ∃ s, j = .text s) ∧ (c = '[' → ∃ xs, j = .array xs) ∧
      (c = '\x7b' → ∃ ms, j = .object ms) := by
  cases spells with
  | null gap | yes gap | no gap =>
    exact ⟨_,_,skipToken gap rfl,by simp,by simp,by simp⟩
  | text gap | array gap | object gap => exact ⟨_,_,skipToken gap rfl,by simp,by simp,by simp⟩
  | number gap number =>
    obtain ⟨c,ds,rfl,start⟩ := l.numberStart number
    have opening := openingNumeral start
    exact ⟨c,ds,skipToken gap opening.token,fun same => absurd same opening.quote,
      fun same => absurd same opening.array,fun same => absurd same opening.object⟩

theorem textYields {j : Json} {cs rest : List Char} (spells : Spells .exact (.value j) cs rest) :
    Yields (text cs) (asText j).toOption rest := by
  by_cases isText : ∃ s, j = .text s
  · obtain ⟨s,rfl⟩ := isText
    cases spells with
    | text quote chars =>
      simp only [text,skipToken quote rfl,stringWritten chars]
      rfl
  · obtain ⟨c,ds,start,quote,-⟩ := valueHead spells
    have none : (asText j).toOption = none := by
      cases j <;> first | rfl | exact absurd ⟨_,rfl⟩ isText
    rw [none]
    refine yieldsNone (fun x ok => ?_) rest
    simp only [text,start] at ok
    split at ok
    · contradiction
    · rename_i same
      cases same
      exact isText (quote rfl)
    · exact unexpectedFails _ _ _ ok

theorem recordFails {l : Leaves} {j : Json} {cs rest : List Char} (spells : Spells l (.value j) cs rest)
    (list : ∀ xs, j ≠ .array xs) (object : ∀ ms, j ≠ .object ms) (name : String)
    (slots : List (TextSlot σ)) (default : σ) (x : σ × List Char) :
    record name slots default cs ≠ .ok x := by
  intro ok
  obtain ⟨c,ds,start,-,bracket,brace⟩ := valueHead spells
  simp only [record,start] at ok
  split at ok
  · contradiction
  · rename_i same
    cases same
    obtain ⟨ms,same⟩ := brace rfl
    exact object ms same
  · rename_i same
    cases same
    obtain ⟨xs,same⟩ := bracket rfl
    exact list xs same
  · exact unexpectedFails _ _ _ ok

structure Agrees (class_ : Json → Prop) (slot : TextSlot σ) (valued : Slot (Update Json σ)) : Prop where
  names : slot.names = valued.names
  required : slot.required = valued.required
  reads : ∀ j cs rest, class_ j → Spells .exact (.value j) cs rest → Parted rest →
    Yields (slot.read cs) (valued.read j).toOption rest

section Slots
variable {class_ : Json → Prop} {slots : List (TextSlot σ)} {valued : List (Slot (Update Json σ))}

theorem slotAgrees {read : Reader α} {readValue : Json → Except Record.Fault α}
    (reads : ∀ j cs rest, class_ j → Spells .exact (.value j) cs rest → Parted rest →
      Yields (read cs) (readValue j).toOption rest)
    (names : List String) (required : Bool) (update : α → σ → σ) :
    Agrees class_ ⟨names,required,into read update⟩
      ⟨names,required,fun j => (readValue j).map update⟩ where
  names := rfl
  required := rfl
  reads := by
    intro j cs rest inClass spells parted
    have found := reads j cs rest inClass spells parted
    dsimp only
    cases value : readValue j with
    | error fault =>
      rw [value] at found
      refine yieldsNone (fun x ok => ?_) rest
      obtain ⟨a,read,-⟩ := bindOk ok
      rw [read] at found
      contradiction
    | ok a =>
      rw [value] at found
      rw [into,yieldsOk found]
      rfl

theorem findAgrees (agree : List.Forall₂ (Agrees class_) slots valued) (name : String) :
    Option.Rel (Agrees class_) (Slot.find? slots name) (Slot.find? valued name) := by
  induction agree with
  | nil => exact .none
  | @cons slot value slots valued agree _ ih =>
    have same : slot.answersTo name = value.answersTo name := by
      rw [Slot.answersTo,Slot.answersTo,agree.names]
    simp only [Slot.find?,List.find?_cons,same]
    split
    · exact .some agree
    · exact ih

theorem missingAgrees (agree : List.Forall₂ (Agrees class_) slots valued) (seen : List String) :
    Slot.missing? slots seen = Slot.missing? valued seen := by
  induction agree with
  | nil => rfl
  | @cons slot value slots valued agree _ ih =>
    have name : slot.name = value.name := by rw [Slot.name,Slot.name,agree.names]
    unfold Slot.missing? at ih ⊢
    rw [List.find?_cons,List.find?_cons,agree.required,name]
    split
    · exact congrArg some name
    · exact ih

def takeValue (valued : List (Slot (Update Json σ))) (name : String) (v : Json) (p : Partial σ) :
    Option (Partial σ) :=
  match Slot.find? valued name with
  | none => some p
  | some slot =>
    if p.seen.contains slot.name then none
    else (slot.read v).toOption.map fun update => ⟨slot.name :: p.seen,update p.record⟩

theorem takeAgrees (agree : List.Forall₂ (Agrees class_) slots valued) {name : String} {v : Json}
    {p : Partial σ} {cs ds rest : List Char} (inClass : class_ v) (colon_ : Gap cs (':' :: ds))
    (spells : Spells .exact (.value v) ds rest) (parted : Parted rest) :
    Yields (takeMember slots name p cs) (takeValue valued name v p) rest := by
  have found := findAgrees agree name
  unfold takeMember takeValue
  generalize Slot.find? slots name = slot at found
  generalize Slot.find? valued name = value at found
  cases found with
  | none =>
    simp only [colonOfGap colon_,passOverOfSpells (looseOfExact spells) parted,bind,Except.bind]
    rfl
  | @some slot value agree =>
    have same : slot.name = value.name := by rw [Slot.name,Slot.name,agree.names]
    dsimp only
    rw [same]
    split
    · rfl
    · rw [colonOfGap colon_,Option.map_eq_bind]
      exact yieldsBind (agree.reads v ds rest inClass spells parted) fun update _ => rfl

theorem membersOfValues (seen : List String) (record : σ) (ms : List (String × Json)) :
    (Record.ofMembers valued seen record ms).toOption =
      (ms.foldlM (fun p m => takeValue valued m.1 m.2 p) ⟨seen,record⟩).bind fun p =>
        match Slot.missing? valued p.seen with
        | some _ => none
        | none => some p.record := by
  induction ms generalizing seen record with
  | nil =>
    simp only [Record.ofMembers,List.foldlM_nil,pure,Option.bind_some]
    cases Slot.missing? valued seen <;> rfl
  | cons m ms ih =>
    obtain ⟨name,v⟩ := m
    simp only [Record.ofMembers,List.foldlM_cons,takeValue,bind]
    cases Slot.find? valued name with
    | none => exact ih seen record
    | some slot =>
      dsimp only
      split
      · rfl
      · cases slot.read v with
        | error fault => rfl
        | ok update => exact ih (slot.name :: seen) (update record)

theorem objectAgrees (agree : List.Forall₂ (Agrees class_) slots valued) {name : String} {default : σ}
    {ms : List (String × Json)} {cs rest : List Char} (inClass : ∀ m ∈ ms, class_ m.2)
    (spells : Spells .exact (.value (.object ms)) cs rest) :
    Yields (record name slots default cs) (asRecord name valued default (.object ms)).toOption rest := by
  cases spells with
  | object brace spells =>
    have read : Yields (members (takeMember slots) ⟨[],default⟩ _) _ rest :=
      membersOfSpells (takeValue valued)
        (fun m member _ _ _ _ gap spells parted => takeAgrees agree (inClass m member) gap spells parted)
        spells (Nat.lt_succ_self _)
    rw [asRecord,membersOfValues]
    simp only [record,skipToken brace rfl]
    refine yieldsBind read fun p _ => ?_
    rw [missingAgrees agree]
    dsimp only
    cases Slot.missing? valued p.seen <;> rfl

def allElements (valued : List (Slot (Update Json σ))) (count : String) (index : Nat) (record : σ)
    (xs : List Json) : Option σ :=
  match Record.ofElements count index valued record xs with
  | .ok (record, []) => some record
  | _ => none

theorem elementsAgree (agree : List.Forall₂ (Agrees class_) slots valued) {count : String} {index : Nat}
    {first : Bool} {record : σ} {xs : List Json} {cs rest : List Char} (inClass : ∀ x ∈ xs, class_ x)
    (spells : Spells .exact (.elements first xs) cs rest) :
    Yields (recordElements count index slots first record cs) (allElements valued count index record xs)
      rest := by
  induction agree generalizing index first record xs cs with
  | nil =>
    cases spells with
    | noElement bracket =>
      simp only [recordElements,skipToken bracket rfl]
      rfl
    | element comma value more =>
      refine yieldsNone ?_ rest
      obtain ⟨c,ds,start,list,-,other,-⟩ := valueStart value
      cases comma with
      | first => simp [recordElements,start,list,other,stopNext]
      | comma comma => simp [recordElements,skipToken comma rfl,start,list,stopNext]
  | @cons slot value slots valued agree more ih =>
    cases spells with
    | noElement bracket =>
      simp only [recordElements,skipToken bracket rfl,allElements,Record.ofElements,agree.required]
      split
      · rfl
      · exact ih (by simp) (.noElement .none)
    | @element _ x xs _ ds es _ comma here others =>
      obtain ⟨c,fs,start,list,-,-,here⟩ := valueStart here
      have read := agree.reads x _ _ (inClass x List.mem_cons_self) here (elementsParted others)
      have present : Yields (slot.read (c :: fs) >>= fun update =>
          recordElements count (index + 1) slots false (update.1 record) update.2)
          ((value.read x).toOption.bind fun update =>
            allElements valued count (index + 1) (update record) xs) rest :=
        yieldsBind read fun update _ =>
          ih (fun x member => inClass x (List.mem_cons_of_mem _ member)) others
      have same : allElements (value :: valued) count index record (x :: xs) =
          (value.read x).toOption.bind fun update =>
            allElements valued count (index + 1) (update record) xs := by
        simp only [allElements,Record.ofElements]
        cases value.read x <;> rfl
      rw [same]
      cases comma with
      | first => simpa [recordElements,start,list] using present
      | comma comma => simpa [recordElements,skipToken comma rfl,start,list] using present

theorem listAgrees (agree : List.Forall₂ (Agrees class_) slots valued) {name : String} {default : σ}
    {xs : List Json} {cs rest : List Char} (inClass : ∀ x ∈ xs, class_ x)
    (spells : Spells .exact (.value (.array xs)) cs rest) :
    Yields (record name slots default cs) (asRecord name valued default (.array xs)).toOption rest := by
  cases spells with
  | array bracket spells =>
    have same : (asRecord name valued default (.array xs)).toOption =
        allElements valued (Record.counted name slots.length) 0 default xs := by
      rw [asRecord,agree.length_eq,allElements]
      rcases Record.ofElements _ _ valued default xs with fault | ⟨record,_ | _⟩ <;> rfl
    rw [same]
    simp only [record,skipToken bracket rfl]
    exact elementsAgree agree inClass spells

def Inside (class_ : Json → Prop) : Json → Prop
  | .array xs => ∀ x ∈ xs, class_ x
  | .object ms => ∀ m ∈ ms, class_ m.2
  | _ => True

theorem recordAgrees (agree : List.Forall₂ (Agrees class_) slots valued) {name : String} {default : σ}
    {j : Json} {cs rest : List Char} (inside : Inside class_ j)
    (spells : Spells .exact (.value j) cs rest) :
    Yields (record name slots default cs) (asRecord name valued default j).toOption rest := by
  cases j with
  | array xs => exact listAgrees agree inside spells
  | object ms => exact objectAgrees agree inside spells
  | null | bool | number | text =>
    exact yieldsNone (recordFails spells (by simp) (by simp) name slots default) rest

theorem documentAgrees (agree : List.Forall₂ (Agrees class_) slots valued) {name : String} {default : σ}
    {j : Json} {cs : List Char} (inside : Inside class_ j) (spells : Document .exact j cs) :
    (document (record name slots default) cs).toOption = (asRecord name valued default j).toOption :=
  documentYields (fun _ spells => recordAgrees agree inside spells) spells

end Slots

theorem intoSound {read : Reader α} (sound : Sound read) (update : α → σ → σ) : Sound (into read update) := by
  intro cs x rest ok
  obtain ⟨⟨y,ds⟩,found,same⟩ := bindOk ok
  cases same
  exact sound _ _ _ found

theorem textSound : Sound text := by
  intro cs s rest ok
  unfold text at ok
  split at ok
  · contradiction
  · rename_i quote
    exact ⟨.text s,.text (gapOfSkip quote) (quotableOfWritten (stringSound ok))⟩
  · exact absurd ok (unexpectedFails _ _ _)

theorem documentSound {r : Reader α} (sound : Sound r) {cs : List Char} {x : α}
    (ok : document r cs = .ok x) : ∃ j, Document .loose j cs := by
  obtain ⟨⟨y,rest⟩,read,ok⟩ := bindOk ok
  obtain ⟨j,value⟩ := sound _ _ _ read
  dsimp only at ok
  split at ok
  · rename_i blank
    exact ⟨j,rest,value,gapOfSkip blank⟩
  · contradiction

end Querent.Json.Reader
