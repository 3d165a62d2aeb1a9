import Querent.Proofs.Json.Grammar
import Querent.Proofs.Text.Utf8

/-! Reading and passing over blanks and strings: what is read is spelled there, and what is spelled is
read. -/
namespace Querent.Json.Reader

theorem bindOk {ε α β : Type} {x : Except ε α} {f : α → Except ε β} {y : β} (ok : (x >>= f) = .ok y) :
    ∃ a, x = .ok a ∧ f a = .ok y := by
  cases x with
  | error fault => contradiction
  | ok a => exact ⟨a,rfl,ok⟩

theorem mapOk {ε α β : Type} {x : Except ε α} {f : α → β} {y : β} :
    x.map f = .ok y ↔ ∃ a, x = .ok a ∧ y = f a := by
  cases x <;> simp [Except.map,eq_comm]

theorem gapSkip (cs : List Char) : Gap cs (skip cs) := by
  induction cs with
  | nil => exact .none
  | cons c cs ih =>
    unfold skip at ih ⊢
    rw [List.dropWhile_cons]
    split
    · exact .blank (by assumption) ih
    · exact .none

theorem gapOfSkip {cs ds : List Char} (skipped : skip cs = ds) : Gap cs ds := skipped ▸ gapSkip cs

theorem skipOfGap {cs rest : List Char} (gap : Gap cs rest) : skip cs = skip rest := by
  induction gap with
  | none => rfl
  | blank blank _ ih =>
    rw [skip,List.dropWhile_cons_of_pos blank]
    exact ih

theorem skipToken {c : Char} {cs rest : List Char} (gap : Gap cs (c :: rest))
    (token : isGap c = false) : skip cs = c :: rest := by
  rw [skipOfGap gap,skip,List.dropWhile_cons_of_neg (by simp [token])]

theorem hexUnitIff {n : Nat} {cs rest : List Char} : hexUnit cs = .ok (n,rest) ↔ Hex4 n cs rest := by
  constructor
  · intro ok
    dsimp only [hexUnit] at ok
    split at ok
    · split at ok
      · cases ok
        exact .mk (by assumption) (by assumption) (by assumption) (by assumption)
      · split at ok <;> contradiction
    · split at ok <;> contradiction
  · rintro ⟨first,second,third,fourth⟩
    simp only [hexUnit,first,second,third,fourth]

theorem hexBound {c : Char} {n : Nat} (value : Text.Hex.value? c = some n) : n < 16 := by
  simp only [Text.Hex.value?,Char.isDigit,Bool.and_eq_true,decide_eq_true_eq,Char.le_def,ge_iff_le,
    UInt32.le_iff_toNat_le,Char.reduceVal,UInt32.reduceToNat] at value
  simp only [Char.toNat] at value
  split at value
  · cases value
    omega
  split at value
  · cases value
    omega
  split at value
  · cases value
    omega
  · contradiction

theorem unitBound {n : Nat} {cs rest : List Char} (unit : Hex4 n cs rest) : n < 65536 := by
  obtain ⟨first,second,third,fourth⟩ := unit
  have := hexBound first
  have := hexBound second
  have := hexBound third
  have := hexBound fourth
  omega

theorem unitChar {n : Nat} {cs rest : List Char} (unit : Hex4 n cs rest) (front : isLeading n = false)
    (back : isTrailing n = false) : (Char.ofNat n).toNat = n := by
  have bound := unitBound unit
  refine Text.Utf8.toNatOfNumber ?_
  simp only [isLeading,isTrailing,Bool.and_eq_false_iff,decide_eq_false_iff_not] at front back
  simp only [Nat.isValidChar]
  omega

inductive Escape : Char → List Char → List Char → Prop where
  | short {k c rest} (letter : (k,c) ∈ shorts) : Escape c (k :: rest) rest
  | unit {c cs rest} (unit : Hex4 c.toNat cs rest) : Escape c ('u' :: cs) rest
  | pair {n m cs ds rest} (leading : isLeading n = true) (trailing : isTrailing m = true)
      (first : Hex4 n cs ('\\' :: 'u' :: ds)) (second : Hex4 m ds rest) :
      Escape (Char.ofNat ((n - 0xD800) * 0x400 + (m - 0xDC00) + 0x10000)) ('u' :: cs) rest

theorem escapeOfUnicode {c : Char} {cs rest : List Char} (ok : unicodeEscape cs = .ok (c,rest)) :
    Escape c ('u' :: cs) rest := by
  obtain ⟨⟨n,es⟩,unit,ok⟩ := bindOk ok
  have unit := hexUnitIff.mp unit
  dsimp only at ok
  split at ok
  · contradiction
  rename_i back
  split at ok
  · rename_i leading
    split at ok
    case h_3 =>
      obtain ⟨⟨m,fs⟩,second,ok⟩ := bindOk ok
      dsimp only at ok
      split at ok
      · rename_i trailing
        obtain ⟨rfl,rfl⟩ := Prod.mk.inj (Except.ok.inj ok)
        exact .pair leading trailing unit (hexUnitIff.mp second)
      · contradiction
    all_goals contradiction
  · rename_i front
    obtain ⟨rfl,rfl⟩ := Prod.mk.inj (Except.ok.inj ok)
    have same := unitChar unit (Bool.eq_false_iff.mpr front) (Bool.eq_false_iff.mpr back)
    exact .unit (same.symm ▸ unit)

theorem escapedSound {c : Char} {cs rest : List Char} (ok : escaped cs = .ok (c,rest)) :
    Escape c cs rest := by
  unfold escaped at ok
  split at ok
  case h_10 => exact escapeOfUnicode ok
  all_goals first | contradiction | (cases ok; exact .short (by simp [shorts]))

theorem writtenOfEscape {c : Char} {s cs ds rest : List Char} (escape : Escape c cs ds)
    (more : Written s ds rest) : Written (c :: s) ('\\' :: cs) rest := by
  cases escape with
  | short letter => exact .short letter more
  | unit unit => exact .unit unit more
  | pair leading trailing first second => exact .pair leading trailing first second more

theorem quotableOfEscape {c : Char} {cs ds rest : List Char} (escape : Escape c cs ds)
    (more : Quotable ds rest) : Quotable ('\\' :: cs) rest := by
  cases escape with
  | short letter => exact .short letter more
  | unit unit => exact .unit unit more
  | pair _ _ first second => exact .unit first (.unit second more)

theorem escapedShort {k c : Char} (letter : (k,c) ∈ shorts) (cs : List Char) :
    escaped (k :: cs) = .ok (c,cs) := by
  simp only [shorts,List.mem_cons,List.not_mem_nil,or_false,Prod.mk.injEq] at letter
  rcases letter with ⟨rfl,rfl⟩ | ⟨rfl,rfl⟩ | ⟨rfl,rfl⟩ | ⟨rfl,rfl⟩ | ⟨rfl,rfl⟩ | ⟨rfl,rfl⟩ | ⟨rfl,rfl⟩ |
    ⟨rfl,rfl⟩ <;> rfl

theorem noHalf (c : Char) : isLeading c.toNat = false ∧ isTrailing c.toNat = false := by
  have valid := c.valid
  simp only [UInt32.isValidChar,Nat.isValidChar] at valid
  simp only [isLeading,isTrailing,Bool.and_eq_false_iff,decide_eq_false_iff_not,Char.toNat]
  omega

theorem escapedUnit {c : Char} {cs rest : List Char} (unit : Hex4 c.toNat cs rest) :
    escaped ('u' :: cs) = .ok (c,rest) := by
  have read : unicodeEscape cs = .ok (c,rest) := by
    simp [unicodeEscape,hexUnitIff.mpr unit,noHalf c,bind,Except.bind]
  exact read

theorem escapedPair {n m : Nat} {cs ds rest : List Char} (leading : isLeading n = true)
    (trailing : isTrailing m = true) (first : Hex4 n cs ('\\' :: 'u' :: ds)) (second : Hex4 m ds rest) :
    escaped ('u' :: cs) =
      .ok (Char.ofNat ((n - 0xD800) * 0x400 + (m - 0xDC00) + 0x10000),rest) := by
  have front : isTrailing n = false := by
    simp only [isLeading,isTrailing,Bool.and_eq_true,Bool.and_eq_false_iff,decide_eq_true_eq,
      decide_eq_false_iff_not] at leading ⊢
    omega
  have read : unicodeEscape cs =
      .ok (Char.ofNat ((n - 0xD800) * 0x400 + (m - 0xDC00) + 0x10000),rest) := by
    simp [unicodeEscape,hexUnitIff.mpr first,hexUnitIff.mpr second,front,leading,trailing,bind,
      Except.bind]
  exact read

theorem writtenOfString {fuel : Nat} {s cs rest : List Char} (ok : stringUpTo fuel cs = .ok (s,rest)) :
    Written s cs rest := by
  induction fuel generalizing s cs with
  | zero => contradiction
  | succ fuel ih =>
    cases cs with
    | nil => contradiction
    | cons c cs =>
      unfold stringUpTo at ok
      split at ok
      · rename_i quote
        cases ok
        exact quote ▸ .close
      split at ok
      · rename_i backslash
        obtain ⟨⟨d,ds⟩,letter,ok⟩ := bindOk ok
        obtain ⟨⟨e,es⟩,more,ok⟩ := bindOk ok
        cases ok
        exact backslash ▸ writtenOfEscape (escapedSound letter) (ih more)
      split at ok
      · contradiction
      · obtain ⟨⟨e,es⟩,more,ok⟩ := bindOk ok
        cases ok
        exact .plain ⟨by assumption,by assumption,by omega⟩ (ih more)

theorem stringUpToEscape {fuel : Nat} {c : Char} {cs ds rest s : List Char}
    (ok : escaped cs = .ok (c,ds)) (more : stringUpTo fuel ds = .ok (s,rest)) :
    stringUpTo (fuel + 1) ('\\' :: cs) = .ok (c :: s,rest) := by
  simp [stringUpTo,ok,more,bind,Except.bind]

theorem stringOfWritten {fuel : Nat} {s cs rest : List Char} (written : Written s cs rest)
    (enough : cs.length < fuel) : stringUpTo fuel cs = .ok (s,rest) := by
  induction fuel generalizing s cs with
  | zero => contradiction
  | succ fuel ih =>
    cases written with
    | close => rfl
    | plain plain more =>
      have read := ih more (Nat.lt_of_succ_lt_succ enough)
      have visible : ¬ _ < 32 := Nat.not_lt.mpr plain.visible
      simp [stringUpTo,plain.quote,plain.backslash,visible,read,bind,Except.bind]
    | short letter more =>
      exact stringUpToEscape (escapedShort letter _) (ih more (by simp at enough; omega))
    | unit unit more =>
      have shorter := hexShorter unit
      exact stringUpToEscape (escapedUnit unit) (ih more (by simp at enough; omega))
    | pair leading trailing first second more =>
      have shorter := hexShorter first
      have shorter' := hexShorter second
      exact stringUpToEscape (escapedPair leading trailing first second)
        (ih more (by simp at enough shorter; omega))

theorem quotableOfIgnored {fuel : Nat} {cs rest : List Char} (ok : ignoredString fuel cs = .ok ((),rest)) :
    Quotable cs rest := by
  induction fuel generalizing cs with
  | zero => contradiction
  | succ fuel ih =>
    cases cs with
    | nil => contradiction
    | cons c cs =>
      unfold ignoredString at ok
      split at ok
      · rename_i quote
        cases ok
        exact quote ▸ .close
      split at ok
      · rename_i backslash
        subst backslash
        split at ok
        · obtain ⟨⟨n,ds⟩,unit,ok⟩ := bindOk ok
          exact .unit (hexUnitIff.mp unit) (ih ok)
        · obtain ⟨⟨d,ds⟩,letter,ok⟩ := bindOk ok
          exact quotableOfEscape (escapedSound letter) (ih ok)
      split at ok
      · contradiction
      · exact .plain ⟨by assumption,by assumption,by omega⟩ (ih ok)

theorem ignoredOfQuotable {fuel : Nat} {cs rest : List Char} (quotable : Quotable cs rest)
    (enough : cs.length < fuel) : ignoredString fuel cs = .ok ((),rest) := by
  induction fuel generalizing cs with
  | zero => contradiction
  | succ fuel ih =>
    cases quotable with
    | close => rfl
    | plain plain more =>
      have read := ih more (Nat.lt_of_succ_lt_succ enough)
      have visible : ¬ _ < 32 := Nat.not_lt.mpr plain.visible
      simp [ignoredString,plain.quote,plain.backslash,visible,read]
    | short letter more =>
      have read := ih more (Nat.lt_of_succ_lt_succ (Nat.lt_of_succ_lt enough))
      simp only [ignoredString,Char.reduceEq,if_false,if_true]
      split
      · rename_i unit
        cases unit
        simp [shorts] at letter
      · simp [escapedShort letter,read,bind,Except.bind]
    | unit unit more =>
      have shorter := hexShorter unit
      have read : ignoredString fuel _ = .ok ((),_) := ih more (by simp at enough; omega)
      simp [ignoredString,hexUnitIff.mpr unit,read,bind,Except.bind]

end Querent.Json.Reader
