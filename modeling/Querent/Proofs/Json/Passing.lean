import Querent.Proofs.Json.Soundness

/-! Passing over values: it comes to the end of any value, of numbers of any size and strings of any
units, and of nothing else. -/
namespace Querent.Json.Reader

inductive Items (item : List Char → List Char → Prop) (close : Char) :
    Bool → List Char → List Char → Prop where
  | close {first cs rest} (gap : Gap cs (close :: rest)) : Items item close first cs rest
  | item {first cs ds es rest} (comma : Comma first cs ds) (here : item ds es)
      (more : Items item close false es rest) : Items item close first cs rest

inductive IsElement : List Char → List Char → Prop where
  | mk {j cs rest} (value : Spells .loose (.value j) cs rest) : IsElement cs rest

inductive IsMember : List Char → List Char → Prop where
  | mk {v cs ds es fs rest} (quote : Gap cs ('"' :: ds)) (chars : Quotable ds es)
      (colon : Gap es (':' :: fs)) (value : Spells .loose (.value v) fs rest) : IsMember cs rest

theorem itemsIffElements {first : Bool} {cs rest : List Char} :
    Items IsElement ']' first cs rest ↔ ∃ xs, Spells .loose (.elements first xs) cs rest := by
  constructor
  · intro items
    induction items with
    | close gap => exact ⟨[],.noElement gap⟩
    | item comma here _ ih =>
      obtain ⟨value⟩ := here
      obtain ⟨xs,more⟩ := ih
      exact ⟨_ :: xs,.element comma value more⟩
  · rintro ⟨xs,spells⟩
    induction xs generalizing first cs with
    | nil =>
      cases spells with
      | noElement gap => exact .close gap
    | cons x xs ih =>
      cases spells with
      | element comma value more => exact .item comma ⟨value⟩ (ih more)

theorem itemsIffMembers {first : Bool} {cs rest : List Char} :
    Items IsMember '\x7d' first cs rest ↔ ∃ ms, Spells .loose (.members first ms) cs rest := by
  constructor
  · intro items
    induction items with
    | close gap => exact ⟨[],.noMember gap⟩
    | item comma here _ ih =>
      obtain ⟨quote,chars,colon,value⟩ := here
      obtain ⟨ms,more⟩ := ih
      exact ⟨("",_) :: ms,.member comma quote chars colon value more⟩
  · rintro ⟨ms,spells⟩
    induction ms generalizing first cs with
    | nil =>
      cases spells with
      | noMember gap => exact .close gap
    | cons m ms ih =>
      cases spells with
      | member comma quote chars colon value more =>
        exact .item comma ⟨quote,chars,colon,value⟩ (ih more)

section Lists
variable {item : List Char → List Char → Prop} {next : Reader Unit} {close : Char}
  {unfinished noSeparator : Problem}

theorem itemsOfRest (sound : ∀ cs rest, next cs = .ok ((),rest) → item cs rest) {fuel : Nat}
    {cs rest : List Char} (ok : ignoredRest next close unfinished noSeparator fuel cs = .ok ((),rest)) :
    Items item close false cs rest := by
  induction fuel generalizing cs with
  | zero => contradiction
  | succ fuel ih =>
    unfold ignoredRest at ok
    split at ok
    · contradiction
    · rename_i start
      have gap := gapOfSkip start
      split at ok
      · rename_i comma
        obtain ⟨⟨_,es⟩,read,ok⟩ := bindOk ok
        exact .item (.comma (comma ▸ gap)) (sound _ _ read) (ih ok)
      split at ok
      · rename_i same
        cases ok
        exact .close (same ▸ gap)
      · contradiction

theorem itemsOfList (sound : ∀ cs rest, next cs = .ok ((),rest) → item cs rest)
    (blanks : ∀ {cs ds rest}, Gap cs ds → item ds rest → item cs rest)
    {cs rest : List Char} (ok : ignoredList next close unfinished noSeparator cs = .ok ((),rest)) :
    Items item close true cs rest := by
  unfold ignoredList at ok
  split at ok
  · contradiction
  · rename_i start
    have gap := gapOfSkip start
    split at ok
    · rename_i same
      cases ok
      exact .close (same ▸ gap)
    · obtain ⟨⟨_,es⟩,read,ok⟩ := bindOk ok
      exact .item .first (blanks gap (sound _ _ read)) (itemsOfRest sound ok)

theorem itemsParted {cs rest : List Char} (items : Items item close false cs rest)
    (bracket : close = ']' ∨ close = '\x7d') : Parted cs := by
  cases items with
  | close gap => exact partedOfGap gap (by rcases bracket with rfl | rfl <;> rfl)
  | item comma =>
    cases comma with
    | comma comma => exact partedOfGap comma rfl

structure Passed (item : List Char → List Char → Prop) (next : Reader Unit) (close : Char)
    (most : Nat) : Prop where
  bracket : close = ']' ∨ close = '\x7d'
  shorter : ∀ {cs rest}, item cs rest → rest.length < cs.length
  start : ∀ {cs rest}, item cs rest → ∃ c ds, skip cs = c :: ds ∧ c ≠ close ∧ item (c :: ds) rest
  passed : ∀ {cs rest}, item cs rest → Parted rest → cs.length < most → next cs = .ok ((),rest)

theorem Passed.closing {most : Nat} (passed : Passed item next close most) :
    isGap close = false ∧ close ≠ ',' := by
  rcases passed.bracket with rfl | rfl <;> decide

theorem restOfItems {most : Nat} (passed : Passed item next close most) {fuel : Nat} {cs rest : List Char}
    (items : Items item close false cs rest) (enough : cs.length < fuel) (few : cs.length ≤ most) :
    ignoredRest next close unfinished noSeparator fuel cs = .ok ((),rest) := by
  obtain ⟨token,other⟩ := passed.closing
  induction fuel generalizing cs with
  | zero => contradiction
  | succ fuel ih =>
    cases items with
    | close gap => simp [ignoredRest,skipToken gap token,other]
    | item comma here more =>
      cases comma with
      | comma comma =>
        have shorter := passed.shorter here
        have shorter' := gapLength comma
        simp only [List.length_cons] at shorter'
        have read := passed.passed here (itemsParted more passed.bracket) (by omega)
        simp [ignoredRest,skipToken comma rfl,read,ih more (by omega) (by omega),bind,Except.bind]

theorem listOfItems (unfinished noSeparator : Problem) {most : Nat}
    (passed : Passed item next close most) {cs rest : List Char}
    (items : Items item close true cs rest) (few : cs.length < most) :
    ignoredList next close unfinished noSeparator cs = .ok ((),rest) := by
  obtain ⟨token,-⟩ := passed.closing
  cases items with
  | close gap => simp [ignoredList,skipToken gap token]
  | item comma here more =>
    cases comma with
    | first =>
      obtain ⟨c,ds,start,other,here⟩ := passed.start here
      have shorter := passed.shorter here
      have shorter' := gapLength (gapOfSkip start)
      simp only [List.length_cons] at shorter shorter'
      have read := passed.passed here (itemsParted more passed.bracket)
        (by simp only [List.length_cons]; omega)
      have others : ignoredRest next close unfinished noSeparator _ _ = .ok ((),rest) :=
        restOfItems passed more (Nat.lt_succ_self _) (by omega)
      simp [ignoredList,start,other,read,others,bind,Except.bind]

end Lists

theorem isElementOfGap {cs ds rest : List Char} (gap : Gap cs ds) (element : IsElement ds rest) :
    IsElement cs rest := by
  obtain ⟨value⟩ := element
  exact ⟨valueOfGap gap value⟩

theorem isMemberOfGap {cs ds rest : List Char} (gap : Gap cs ds) (member : IsMember ds rest) :
    IsMember cs rest := by
  obtain ⟨quote,chars,colon,value⟩ := member
  exact ⟨gapTrans gap quote,chars,colon,value⟩

theorem isMemberOfIgnored {next : Reader Unit}
    (sound : ∀ cs rest, next cs = .ok ((),rest) → IsElement cs rest) (cs rest : List Char)
    (ok : ignoredMember next cs = .ok ((),rest)) : IsMember cs rest := by
  unfold ignoredMember at ok
  split at ok
  · contradiction
  · rename_i quote
    obtain ⟨⟨_,es⟩,read,ok⟩ := bindOk ok
    obtain ⟨fs,colon,ok⟩ := bindOk ok
    obtain ⟨value⟩ := sound _ _ ok
    exact ⟨gapOfSkip quote,quotableOfIgnored read,colonSound colon,value⟩
  · contradiction

theorem ignoredSound (fuel : Nat) (cs rest : List Char) (ok : ignored fuel cs = .ok ((),rest)) :
    IsElement cs rest := by
  induction fuel generalizing cs rest with
  | zero => contradiction
  | succ fuel ih =>
    unfold ignored at ok
    split at ok
    · contradiction
    rename_i c ds start
    have gap := gapOfSkip start
    split at ok
    · rename_i letter
      rw [letter,wordSound ok] at gap
      exact ⟨.null gap⟩
    split at ok
    · rename_i letter
      rw [letter,wordSound ok] at gap
      exact ⟨.yes gap⟩
    split at ok
    · rename_i letter
      rw [letter,wordSound ok] at gap
      exact ⟨.no gap⟩
    split at ok
    · rename_i sign
      exact ⟨.number (n := .integer 0) (sign ▸ gap) (.minus (unsignedOfIgnored ok))⟩
    split at ok
    · exact ⟨.number (n := .integer 0) gap (.plus (unsignedOfIgnored ok))⟩
    split at ok
    · rename_i quote
      exact ⟨.text (s := "") (quote ▸ gap) (quotableOfIgnored ok)⟩
    split at ok
    · rename_i bracket
      obtain ⟨xs,elements⟩ := itemsIffElements.mp (itemsOfList ih isElementOfGap ok)
      exact ⟨.array (bracket ▸ gap) elements⟩
    split at ok
    · rename_i brace
      obtain ⟨ms,members⟩ := itemsIffMembers.mp (itemsOfList (isMemberOfIgnored ih) isMemberOfGap ok)
      exact ⟨.object (brace ▸ gap) members⟩
    · contradiction

theorem passOverSound : Sound passOver := by
  intro cs _ rest ok
  obtain ⟨value⟩ := ignoredSound _ cs rest ok
  exact ⟨_,value⟩

theorem elementsPassed {next : Reader Unit} {most : Nat}
    (passed : ∀ {cs rest}, IsElement cs rest → Parted rest → cs.length < most → next cs = .ok ((),rest)) :
    Passed IsElement next ']' most where
  bracket := .inl rfl
  shorter := fun ⟨value⟩ => spellsShorter value
  start := by
    rintro _ _ ⟨value⟩
    obtain ⟨c,ds,start,list,-,-,value⟩ := valueStart value
    exact ⟨c,ds,start,list,⟨value⟩⟩
  passed := passed

theorem membersPassed {next : Reader Unit} {most : Nat}
    (passed : ∀ {cs rest}, IsElement cs rest → Parted rest → cs.length < most → next cs = .ok ((),rest)) :
    Passed IsMember (ignoredMember next) '\x7d' most where
  bracket := .inr rfl
  shorter := by
    rintro _ _ ⟨quote,chars,colon,value⟩
    have := gapLength quote
    have := quotableShorter chars
    have := gapLength colon
    have := spellsShorter value
    simp only [List.length_cons] at *
    omega
  start := by
    rintro _ _ ⟨quote,chars,colon,value⟩
    exact ⟨'"',_,skipToken quote rfl,by decide,⟨.none,chars,colon,value⟩⟩
  passed := by
    rintro cs rest ⟨quote,chars,colon,value⟩ parted few
    have := gapLength quote
    have := quotableShorter chars
    have := gapLength colon
    simp only [List.length_cons] at *
    have read := passed ⟨value⟩ parted (by omega)
    simp [ignoredMember,skipToken quote rfl,ignoredOfQuotable chars (Nat.lt_succ_self _),
      colonOfGap colon,read,bind,Except.bind]

theorem ignoredOfSpells {fuel : Nat} {cs rest : List Char} (element : IsElement cs rest)
    (parted : Parted rest) (enough : cs.length < fuel) : ignored fuel cs = .ok ((),rest) := by
  induction fuel generalizing cs rest with
  | zero => contradiction
  | succ fuel ih =>
    obtain ⟨value⟩ := element
    cases value with
    | null gap | yes gap | no gap => simp [ignored,skipToken gap rfl,word]
    | number gap number =>
      cases number with
      | minus unsigned => simp [ignored,skipToken gap rfl,ignoredOfUnsigned unsigned parted]
      | plus unsigned =>
        have read := ignoredOfUnsigned unsigned parted
        obtain ⟨c,ds,rfl,digit⟩ := unsignedStart unsigned
        have opening := openingNumeral (.inr digit)
        have minus : c ≠ '-' := by rintro rfl; contradiction
        simp [ignored,skipToken gap opening.token,opening.null,opening.yes,opening.no,minus,digit,read]
    | text quote chars =>
      simp [ignored,skipToken quote rfl,ignoredOfQuotable chars (Nat.lt_succ_self _)]
    | array bracket elements =>
      have few := gapLength bracket
      have read := listOfItems .unfinishedList .noListSeparator (elementsPassed ih)
        (itemsIffElements.mpr ⟨_,elements⟩) (by simp at few; omega)
      simp [ignored,skipToken bracket rfl,read]
    | object brace members =>
      have few := gapLength brace
      have read := listOfItems .unfinishedObject .noObjectSeparator (membersPassed ih)
        (itemsIffMembers.mpr ⟨_,members⟩) (by simp at few; omega)
      simp [ignored,skipToken brace rfl,read]

theorem passOverOfSpells {j : Json} {cs rest : List Char} (spells : Spells .loose (.value j) cs rest)
    (parted : Parted rest) : passOver cs = .ok ((),rest) :=
  ignoredOfSpells ⟨spells⟩ parted (Nat.lt_succ_self _)

end Querent.Json.Reader
