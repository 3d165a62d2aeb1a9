import Querent.Proofs.Json.Grammar

/-! The text of a value spells it, and holds no control characters. -/
namespace Querent.Json

theorem hexDigitValue : ∀ n < 16, Text.Hex.value? (Text.Hex.digit n) = some n := by decide

inductive Escape (c : Char) : List Char → Prop where
  | short {k} (letter : (k,c) ∈ shorts) : Escape c ['\\',k]
  | control (control : c.toNat < 32) : Escape c
      ['\\','u','0','0',Text.Hex.digit (c.toNat / 16),Text.Hex.digit (c.toNat % 16)]
  | plain (plain : Plain c) : Escape c [c]

theorem escapeOf (c : Char) : Escape c (escape c) := by
  by_cases short : c ∈ ['"','\\','\x08','\t','\n','\x0c','\r']
  · simp only [List.mem_cons,List.not_mem_nil,or_false] at short
    rcases short with rfl | rfl | rfl | rfl | rfl | rfl | rfl <;> exact .short (by decide)
  · simp only [List.mem_cons,List.not_mem_nil,or_false,not_or] at short
    obtain ⟨quote,backslash,b,t,n,f,r⟩ := short
    simp only [escape,quote,backslash,b,t,n,f,r,if_false]
    split
    · exact .control (by assumption)
    · exact .plain ⟨quote,backslash,by omega⟩

theorem hexOfControl {c : Char} (control : c.toNat < 32) (rest : List Char) :
    Hex4 c.toNat ('0' :: '0' :: Text.Hex.digit (c.toNat / 16) :: Text.Hex.digit (c.toNat % 16) :: rest)
      rest := by
  have zero : Text.Hex.value? '0' = some 0 := by decide
  have unit : Hex4 (0 * 4096 + 0 * 256 + c.toNat / 16 * 16 + c.toNat % 16) _ rest :=
    .mk zero zero (hexDigitValue _ (by omega)) (hexDigitValue _ (by omega))
  have same : c.toNat = 0 * 4096 + 0 * 256 + c.toNat / 16 * 16 + c.toNat % 16 := by omega
  rw [← same] at unit
  exact unit

theorem writtenEscape {c : Char} {s cs rest : List Char} (more : Written s cs rest) :
    Written (c :: s) (escape c ++ cs) rest := by
  have escape_ := escapeOf c
  generalize escape c = es at escape_
  cases escape_ with
  | short letter => exact .short letter more
  | control control => exact .unit (hexOfControl control cs) more
  | plain plain => exact .plain plain more

theorem writtenQuote (s rest : List Char) : Written s (s.flatMap escape ++ '"' :: rest) rest := by
  induction s with
  | nil => exact .close
  | cons c s ih =>
    rw [List.flatMap_cons,List.append_assoc]
    exact writtenEscape ih

theorem renderTextAppend (s : String) (rest : List Char) :
    renderText s ++ rest = '"' :: (s.toList.flatMap escape ++ '"' :: rest) := by
  simp [renderText,quote]

theorem elementsFurther {l : Leaves} {x : Json} {xs : List Json} {cs rest : List Char}
    (spells : Spells l (.elements true (x :: xs)) cs rest) :
    Spells l (.elements false (x :: xs)) (',' :: cs) rest := by
  cases spells with
  | element comma value more =>
    cases comma with
    | first => exact .element (.comma .none) value more

theorem membersFurther {l : Leaves} {m : String × Json} {ms : List (String × Json)} {cs rest : List Char}
    (spells : Spells l (.members true (m :: ms)) cs rest) :
    Spells l (.members false (m :: ms)) (',' :: cs) rest := by
  cases spells with
  | member comma quote chars colon value more =>
    cases comma with
    | first => exact .member (.comma .none) quote chars colon value more

theorem elementsRendered {xs : List Json} (rest : List Char)
    (all : ∀ x ∈ xs, ∀ rest, Spells .exact (.value x) (render x ++ rest) rest) :
    Spells .exact (.elements true xs) (renderElements xs ++ rest) rest := by
  induction xs with
  | nil => exact .noElement .none
  | cons x xs ih =>
    have first := all x List.mem_cons_self
    have others := ih fun x member => all x (List.mem_cons_of_mem _ member)
    cases xs with
    | nil =>
      rw [renderElements,List.append_assoc]
      exact .element .first (first _) (.noElement .none)
    | cons y xs =>
      rw [renderElements,List.append_assoc]
      exact .element .first (first _) (elementsFurther others)

theorem membersRendered {ms : List (String × Json)} (rest : List Char)
    (all : ∀ m ∈ ms, ∀ rest, Spells .exact (.value m.2) (render m.2 ++ rest) rest) :
    Spells .exact (.members true ms) (renderMembers ms ++ rest) rest := by
  induction ms with
  | nil => exact .noMember .none
  | cons m ms ih =>
    have first := all m List.mem_cons_self
    have others := ih fun m member => all m (List.mem_cons_of_mem _ member)
    obtain ⟨name,v⟩ := m
    cases ms with
    | nil =>
      rw [renderMembers,List.append_assoc,renderTextAppend,List.cons_append,List.append_assoc]
      exact .member .first .none (writtenQuote _ _) .none (first _) (.noMember .none)
    | cons m ms =>
      rw [renderMembers,List.append_assoc,renderTextAppend,List.cons_append,List.append_assoc]
      exact .member .first .none (writtenQuote _ _) .none (first _) (membersFurther others)

theorem valueRendered {depth : Nat} {j : Json} (faithful : Faithful depth j) (rest : List Char) :
    Spells .exact (.value j) (render j ++ rest) rest := by
  induction faithful generalizing rest with
  | null => exact .null .none
  | @bool _ b =>
    cases b with
    | false => exact .no .none
    | true => exact .yes .none
  | number => exact .number .none ⟨_,rfl,rfl⟩
  | text =>
    rw [render,renderTextAppend]
    exact .text .none (writtenQuote _ _)
  | array _ ih => exact .array .none (elementsRendered rest ih)
  | object _ _ ih => exact .object .none (membersRendered rest ih)

theorem objectRendered {depth : Nat} {ms : List (String × Json)} (all : ∀ m ∈ ms, Faithful depth m.2) :
    Document .exact (.object ms) (Json.object ms).toText.toList := by
  have members := membersRendered [] fun m member => valueRendered (all m member)
  rw [List.append_nil] at members
  rw [toText,String.toList_ofList]
  exact ⟨[],.object .none members,.none⟩

abbrev Visible (cs : List Char) : Prop := ∀ c ∈ cs, 32 ≤ c.toNat

theorem visibleNil : Visible [] := nofun

theorem visibleAppend {cs ds : List Char} (first : Visible cs) (second : Visible ds) :
    Visible (cs ++ ds) := by
  intro c member
  rcases List.mem_append.mp member with here | there
  · exact first c here
  · exact second c there

theorem visibleCons {c : Char} {cs : List Char} (here : 32 ≤ c.toNat) (more : Visible cs) :
    Visible (c :: cs) := List.forall_mem_cons.mpr ⟨here,more⟩

theorem visibleWord {cs : List Char} (all : cs.all (32 ≤ ·.toNat) = true) : Visible cs := by
  simpa using all

theorem visibleEscape (c : Char) : Visible (escape c) := by
  have escape_ := escapeOf c
  generalize escape c = es at escape_
  cases escape_ with
  | short letter =>
    have letters : ∀ short ∈ shorts, 32 ≤ short.1.toNat := by decide
    exact visibleCons (by decide) (visibleCons (letters _ letter) visibleNil)
  | control control =>
    have digits : ∀ n < 16, 32 ≤ (Text.Hex.digit n).toNat := by decide
    simp only [List.forall_mem_cons,List.not_mem_nil,false_implies,implies_true,and_true]
    exact ⟨by decide,by decide,by decide,by decide,digits _ (by omega),digits _ (by omega)⟩
  | plain plain => exact visibleCons plain.visible visibleNil

theorem visibleText (s : String) : Visible (renderText s) := by
  refine visibleCons (by decide) (visibleAppend ?_ (visibleCons (by decide) visibleNil))
  intro c member
  obtain ⟨d,_,escaped⟩ := List.mem_flatMap.mp member
  exact visibleEscape d c escaped

theorem visibleInteger (i : Int) : Visible (intText i) := by
  have digits : ∀ n, Visible (Nat.toDigits 10 n) := by
    intro n c member
    have digit := (Char.isDigit_iff_toNat.mp (digitsOfDecimal n c member)).1
    simp only [Char.reduceToNat] at digit
    omega
  unfold intText
  split
  · exact visibleCons (by decide) (digits _)
  · exact digits _

theorem visibleElements {xs : List Json} (all : ∀ x ∈ xs, Visible (render x)) :
    Visible (renderElements xs) := by
  induction xs with
  | nil => exact visibleCons (by decide) visibleNil
  | cons x xs ih =>
    have first := all x List.mem_cons_self
    have others := ih fun x member => all x (List.mem_cons_of_mem _ member)
    cases xs with
    | nil => exact visibleAppend first (visibleCons (by decide) visibleNil)
    | cons y xs => exact visibleAppend first (visibleCons (by decide) others)

theorem visibleMembers {ms : List (String × Json)} (all : ∀ m ∈ ms, Visible (render m.2)) :
    Visible (renderMembers ms) := by
  induction ms with
  | nil => exact visibleCons (by decide) visibleNil
  | cons m ms ih =>
    have first := all m List.mem_cons_self
    have others := ih fun m member => all m (List.mem_cons_of_mem _ member)
    obtain ⟨name,v⟩ := m
    have named : Visible (renderText name ++ ':' :: render v) :=
      visibleAppend (visibleText name) (visibleCons (by decide) first)
    cases ms with
    | nil => exact visibleAppend named (visibleCons (by decide) visibleNil)
    | cons m ms => exact visibleAppend named (visibleCons (by decide) others)

theorem visibleRendered {depth : Nat} {j : Json} (faithful : Faithful depth j) : Visible (render j) := by
  induction faithful with
  | null => exact visibleWord rfl
  | @bool _ b => cases b <;> exact visibleWord rfl
  | number => exact visibleInteger _
  | text => exact visibleText _
  | array _ ih => exact visibleCons (by decide) (visibleElements ih)
  | object _ _ ih => exact visibleCons (by decide) (visibleMembers ih)

end Querent.Json
