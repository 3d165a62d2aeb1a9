import Querent.Proofs.Json.Values

/-! A reader that gives back anything has read JSON. -/
namespace Querent.Json.Reader
variable {α σ : Type}

def Sound (r : Reader α) : Prop :=
  ∀ cs x rest, r cs = .ok (x,rest) → ∃ j, Spells .loose (.value j) cs rest

theorem stringSound {s : String} {cs rest : List Char} (ok : string cs = .ok (s,rest)) :
    Written s.toList cs rest := by
  obtain ⟨⟨ds,es⟩,read,same⟩ := bindOk ok
  cases same
  rw [String.toList_ofList]
  exact writtenOfString read

theorem wordSound {value x : α} {expected cs rest : List Char} (ok : word value expected cs = .ok (x,rest)) :
    cs = expected ++ rest := by
  induction expected generalizing cs with
  | nil =>
    cases ok
    rfl
  | cons e expected ih =>
    cases cs with
    | nil => contradiction
    | cons c cs =>
      unfold word at ok
      split at ok
      · rename_i same
        rw [same,ih ok]
        rfl
      · contradiction

theorem wordValue {value x : α} {expected cs rest : List Char} (ok : word value expected cs = .ok (x,rest)) :
    x = value := by
  induction expected generalizing cs with
  | nil =>
    cases ok
    rfl
  | cons e expected ih =>
    cases cs with
    | nil => contradiction
    | cons c cs =>
      unfold word at ok
      split at ok
      · exact ih ok
      · contradiction

theorem valueWithSound {list object : Reader Json}
    (lists : ∀ cs x rest, list ('[' :: cs) = .ok (x,rest) →
      ∃ xs, Spells .loose (.elements true xs) cs rest)
    (objects : ∀ cs x rest, object ('\x7b' :: cs) = .ok (x,rest) →
      ∃ ms, Spells .loose (.members true ms) cs rest) : Sound (valueWith list object) := by
  intro cs x rest ok
  unfold valueWith at ok
  split at ok
  · contradiction
  rename_i c ds start
  have gap := gapOfSkip start
  split at ok
  · rename_i letter
    rw [letter,wordSound ok] at gap
    exact ⟨_,.null gap⟩
  split at ok
  · rename_i letter
    rw [letter,wordSound ok] at gap
    exact ⟨_,.yes gap⟩
  split at ok
  · rename_i letter
    rw [letter,wordSound ok] at gap
    exact ⟨_,.no gap⟩
  split at ok
  · rename_i sign
    obtain ⟨⟨n,es⟩,read,same⟩ := bindOk ok
    cases same
    exact ⟨.number n,.number (sign ▸ gap) (.minus (unsignedOfNumber read))⟩
  split at ok
  · obtain ⟨⟨n,es⟩,read,same⟩ := bindOk ok
    cases same
    exact ⟨.number n,.number gap (.plus (unsignedOfNumber read))⟩
  split at ok
  · rename_i quote
    obtain ⟨⟨s,es⟩,read,same⟩ := bindOk ok
    cases same
    exact ⟨.text s,.text (quote ▸ gap) (quotableOfWritten (stringSound read))⟩
  split at ok
  · rename_i bracket
    obtain ⟨xs,read⟩ := lists ds x rest (bracket ▸ ok)
    exact ⟨_,.array (bracket ▸ gap) read⟩
  split at ok
  · rename_i brace
    obtain ⟨ms,read⟩ := objects ds x rest (brace ▸ ok)
    exact ⟨_,.object (brace ▸ gap) read⟩
  · contradiction

theorem elementsSound {item : Reader α} (items : Sound item) {fuel : Nat} {first : Bool} {xs : List α}
    {cs rest : List Char} (ok : elementsUpTo item fuel first cs = .ok (xs,rest)) :
    ∃ js, Spells .loose (.elements first js) cs rest := by
  induction fuel generalizing first xs cs with
  | zero => contradiction
  | succ fuel ih =>
    unfold elementsUpTo at ok
    split at ok
    · contradiction
    · rename_i start
      cases ok
      exact ⟨[],.noElement (gapOfSkip start)⟩
    · rename_i c ds _ start
      have further : ∀ before next, Comma first cs before → Gap before next →
          (item next >>= fun x => elementsUpTo item fuel false x.2 >>= fun xs =>
            .ok (x.1 :: xs.1,xs.2)) = .ok (xs,rest) →
          ∃ js, Spells .loose (.elements first js) cs rest := by
        intro before next comma gap ok
        obtain ⟨⟨x,es⟩,read,ok⟩ := bindOk ok
        obtain ⟨⟨ys,fs⟩,more,same⟩ := bindOk ok
        cases same
        obtain ⟨j,value⟩ := items _ _ _ read
        obtain ⟨js,more⟩ := ih more
        exact ⟨j :: js,.element comma (valueOfGap gap value) more⟩
      cases first with
      | true => exact further cs (c :: ds) .first (gapOfSkip start) ok
      | false =>
        dsimp only at ok
        rw [if_neg Bool.false_ne_true] at ok
        split at ok
        · rename_i comma
          have comma : Comma false cs ds := .comma (comma ▸ gapOfSkip start)
          split at ok
          · contradiction
          · contradiction
          · exact further ds _ comma (gapSkip ds) ok
        · contradiction

theorem colonSound {cs rest : List Char} (ok : colon cs = .ok rest) : Gap cs (':' :: rest) := by
  unfold colon at ok
  dsimp only at ok
  split at ok
  · contradiction
  · rename_i start
    cases ok
    exact gapOfSkip start
  · contradiction

def Named (first : Bool) (cs rest : List Char) : Option String → Prop
  | none => Gap cs ('\x7d' :: rest)
  | some name => ∃ ds es, Comma first cs ds ∧ Gap ds ('"' :: es) ∧ Written name.toList es rest

theorem memberNameSound {first : Bool} {name : Option String} {cs rest : List Char}
    (ok : memberName first cs = .ok (name,rest)) : Named first cs rest name := by
  unfold memberName at ok
  split at ok
  · contradiction
  · rename_i start
    cases ok
    exact gapOfSkip start
  · rename_i c ds _ start
    have gap := gapOfSkip start
    split at ok
    · rename_i isFirst
      split at ok
      · rename_i quote
        obtain ⟨⟨s,es⟩,read,same⟩ := bindOk ok
        cases same
        exact ⟨cs,ds,isFirst ▸ .first,quote ▸ gap,stringSound read⟩
      · contradiction
    · rename_i isNext
      rw [Bool.not_eq_true] at isNext
      split at ok
      · rename_i comma
        split at ok
        · rename_i quote
          obtain ⟨⟨s,es⟩,read,same⟩ := bindOk ok
          cases same
          exact ⟨ds,_,isNext ▸ .comma (comma ▸ gap),gapOfSkip quote,stringSound read⟩
        all_goals contradiction
      · contradiction

theorem membersSound {step : String → σ → Reader σ}
    (steps : ∀ name state cs x rest, step name state cs = .ok (x,rest) →
      ∃ ds v, Gap cs (':' :: ds) ∧ Spells .loose (.value v) ds rest)
    {fuel : Nat} {first : Bool} {state x : σ} {cs rest : List Char}
    (ok : membersUpTo step fuel first state cs = .ok (x,rest)) :
    ∃ ms, Spells .loose (.members first ms) cs rest := by
  induction fuel generalizing first state cs with
  | zero => contradiction
  | succ fuel ih =>
    obtain ⟨⟨name,ds⟩,read,ok⟩ := bindOk ok
    cases name with
    | none =>
      cases ok
      exact ⟨[],.noMember (memberNameSound read)⟩
    | some name =>
      obtain ⟨⟨next,es⟩,taken,ok⟩ := bindOk ok
      obtain ⟨ms,more⟩ := ih ok
      obtain ⟨_,_,comma,quote,chars⟩ := memberNameSound read
      obtain ⟨_,v,gap,value⟩ := steps _ _ _ _ _ taken
      exact ⟨(name,v) :: ms,.member comma quote (quotableOfWritten chars) gap value more⟩

theorem valueSound (depth : Nat) : Sound (value depth) := by
  induction depth with
  | zero => exact valueWithSound (by rintro _ _ _ ⟨⟩) (by rintro _ _ _ ⟨⟩)
  | succ depth ih =>
    refine valueWithSound ?_ ?_
    · intro cs x rest ok
      obtain ⟨⟨xs,ds⟩,read,same⟩ := bindOk ok
      cases same
      exact elementsSound ih read
    · intro cs x rest ok
      obtain ⟨⟨ms,ds⟩,read,same⟩ := bindOk ok
      cases same
      refine membersSound ?_ read
      intro name state es y fs taken
      obtain ⟨gs,gap,taken⟩ := bindOk taken
      obtain ⟨⟨v,hs⟩,value,same⟩ := bindOk taken
      cases same
      obtain ⟨j,value⟩ := ih _ _ _ value
      exact ⟨_,j,colonSound gap,value⟩

end Querent.Json.Reader
