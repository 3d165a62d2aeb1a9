import Querent.Json.Reader

/-! Which texts are JSON, and of which value. A part of a text stands from one point of it to another,
and a point is given by the text that is left there. -/
namespace Querent.Json
open Reader (isGap isLeading isTrailing)

inductive Gap : List Char → List Char → Prop where
  | none {cs} : Gap cs cs
  | blank {c cs rest} (blank : isGap c = true) (more : Gap cs rest) : Gap (c :: cs) rest

inductive Digits : List Char → List Char → Prop where
  | last {c rest} (digit : c.isDigit = true) : Digits (c :: rest) rest
  | more {c cs rest} (digit : c.isDigit = true) (more : Digits cs rest) : Digits (c :: cs) rest

inductive Whole : List Char → List Char → Prop where
  | zero {rest} : Whole ('0' :: rest) rest
  | digits {c cs rest} (leading : c ≠ '0') (digits : Digits (c :: cs) rest) : Whole (c :: cs) rest

inductive Fraction : List Char → List Char → Prop where
  | none {cs} : Fraction cs cs
  | digits {cs rest} (digits : Digits cs rest) : Fraction ('.' :: cs) rest

inductive Exponent : List Char → List Char → Prop where
  | none {cs} : Exponent cs cs
  | digits {e cs ds rest} (letter : e = 'e' ∨ e = 'E') (sign : cs = ds ∨ cs = '+' :: ds ∨ cs = '-' :: ds)
      (digits : Digits ds rest) : Exponent (e :: cs) rest

inductive Unsigned : List Char → List Char → Prop where
  | mk {cs ds es rest} (whole : Whole cs ds) (fraction : Fraction ds es) (exponent : Exponent es rest) :
      Unsigned cs rest

inductive Signed : List Char → List Char → Prop where
  | plus {cs rest} (unsigned : Unsigned cs rest) : Signed cs rest
  | minus {cs rest} (unsigned : Unsigned cs rest) : Signed ('-' :: cs) rest

def shorts : List (Char × Char) :=
  [('"','"'), ('\\','\\'), ('/','/'), ('b','\x08'), ('f','\x0c'), ('n','\n'), ('r','\r'), ('t','\t')]

inductive Hex4 : Nat → List Char → List Char → Prop where
  | mk {a b c d : Char} {i j k l : Nat} {rest} (first : Text.Hex.value? a = some i)
      (second : Text.Hex.value? b = some j) (third : Text.Hex.value? c = some k)
      (fourth : Text.Hex.value? d = some l) :
      Hex4 (i * 4096 + j * 256 + k * 16 + l) (a :: b :: c :: d :: rest) rest

structure Plain (c : Char) : Prop where
  quote : c ≠ '"'
  backslash : c ≠ '\\'
  visible : 32 ≤ c.toNat

inductive Written : List Char → List Char → List Char → Prop where
  | close {rest} : Written [] ('"' :: rest) rest
  | plain {c s cs rest} (plain : Plain c) (more : Written s cs rest) : Written (c :: s) (c :: cs) rest
  | short {k c s cs rest} (letter : (k,c) ∈ shorts) (more : Written s cs rest) :
      Written (c :: s) ('\\' :: k :: cs) rest
  | unit {c s cs ds rest} (unit : Hex4 c.toNat cs ds) (more : Written s ds rest) :
      Written (c :: s) ('\\' :: 'u' :: cs) rest
  | pair {n m s cs ds es rest} (leading : isLeading n = true) (trailing : isTrailing m = true)
      (first : Hex4 n cs ('\\' :: 'u' :: ds)) (second : Hex4 m ds es) (more : Written s es rest) :
      Written (Char.ofNat ((n - 0xD800) * 0x400 + (m - 0xDC00) + 0x10000) :: s) ('\\' :: 'u' :: cs) rest

inductive Quotable : List Char → List Char → Prop where
  | close {rest} : Quotable ('"' :: rest) rest
  | plain {c cs rest} (plain : Plain c) (more : Quotable cs rest) : Quotable (c :: cs) rest
  | short {k c cs rest} (letter : (k,c) ∈ shorts) (more : Quotable cs rest) :
      Quotable ('\\' :: k :: cs) rest
  | unit {n cs ds rest} (unit : Hex4 n cs ds) (more : Quotable ds rest) :
      Quotable ('\\' :: 'u' :: cs) rest

theorem quotableOfWritten {s cs rest : List Char} (written : Written s cs rest) : Quotable cs rest := by
  induction written with
  | close => exact .close
  | plain plain _ ih => exact .plain plain ih
  | short letter _ ih => exact .short letter ih
  | unit unit _ ih => exact .unit unit ih
  | pair _ _ first second _ ih => exact .unit first (.unit second ih)

structure Leaves where
  number : Number → List Char → List Char → Prop
  chars : String → List Char → List Char → Prop
  numberStart : ∀ {n cs rest}, number n cs rest → ∃ c ds, cs = c :: ds ∧ (c = '-' ∨ c.isDigit = true)
  numberShorter : ∀ {n cs rest}, number n cs rest → rest.length < cs.length
  charsShorter : ∀ {s cs rest}, chars s cs rest → rest.length < cs.length

inductive Part where
  | value (j : Json)
  | elements (first : Bool) (xs : List Json)
  | members (first : Bool) (ms : List (String × Json))

inductive Comma : Bool → List Char → List Char → Prop where
  | first {cs} : Comma true cs cs
  | comma {cs ds} (comma : Gap cs (',' :: ds)) : Comma false cs ds

inductive Spells (l : Leaves) : Part → List Char → List Char → Prop where
  | null {cs rest} (word : Gap cs ('n' :: 'u' :: 'l' :: 'l' :: rest)) : Spells l (.value .null) cs rest
  | yes {cs rest} (word : Gap cs ('t' :: 'r' :: 'u' :: 'e' :: rest)) :
      Spells l (.value (.bool true)) cs rest
  | no {cs rest} (word : Gap cs ('f' :: 'a' :: 'l' :: 's' :: 'e' :: rest)) :
      Spells l (.value (.bool false)) cs rest
  | number {n cs ds rest} (gap : Gap cs ds) (number : l.number n ds rest) :
      Spells l (.value (.number n)) cs rest
  | text {s cs ds rest} (quote : Gap cs ('"' :: ds)) (chars : l.chars s ds rest) :
      Spells l (.value (.text s)) cs rest
  | array {xs cs ds rest} (bracket : Gap cs ('[' :: ds)) (elements : Spells l (.elements true xs) ds rest) :
      Spells l (.value (.array xs)) cs rest
  | object {ms cs ds rest} (brace : Gap cs ('\x7b' :: ds)) (members : Spells l (.members true ms) ds rest) :
      Spells l (.value (.object ms)) cs rest
  | noElement {first cs rest} (bracket : Gap cs (']' :: rest)) : Spells l (.elements first []) cs rest
  | element {first x xs cs ds es rest} (comma : Comma first cs ds) (value : Spells l (.value x) ds es)
      (more : Spells l (.elements false xs) es rest) : Spells l (.elements first (x :: xs)) cs rest
  | noMember {first cs rest} (brace : Gap cs ('\x7d' :: rest)) : Spells l (.members first []) cs rest
  | member {first name v ms cs ds es fs gs hs rest} (comma : Comma first cs ds) (quote : Gap ds ('"' :: es))
      (chars : l.chars name es fs) (colon : Gap fs (':' :: gs)) (value : Spells l (.value v) gs hs)
      (more : Spells l (.members false ms) hs rest) :
      Spells l (.members first ((name,v) :: ms)) cs rest

def Document (l : Leaves) (j : Json) (cs : List Char) : Prop :=
  ∃ rest, Spells l (.value j) cs rest ∧ Gap rest []

theorem gapTrans {cs ds es : List Char} (first : Gap cs ds) (second : Gap ds es) : Gap cs es := by
  induction first with
  | none => exact second
  | blank blank _ ih => exact .blank blank (ih second)

theorem gapLength {cs rest : List Char} (gap : Gap cs rest) : rest.length ≤ cs.length := by
  induction gap with
  | none => exact Nat.le_refl _
  | blank _ _ ih => exact Nat.le_succ_of_le ih

theorem commaLength {first : Bool} {cs rest : List Char} (comma : Comma first cs rest) :
    rest.length ≤ cs.length := by
  cases comma with
  | first => exact Nat.le_refl _
  | comma comma => exact Nat.le_of_succ_le (gapLength comma)

theorem spellsShorter {l : Leaves} {p : Part} {cs rest : List Char} (spells : Spells l p cs rest) :
    rest.length < cs.length := by
  induction spells with
  | null word | yes word | no word =>
    have := gapLength word
    simp only [List.length_cons] at this
    omega
  | number gap number => exact Nat.lt_of_lt_of_le (l.numberShorter number) (gapLength gap)
  | text quote chars =>
    have := gapLength quote
    have := l.charsShorter chars
    simp only [List.length_cons] at *
    omega
  | array gap _ ih | object gap _ ih =>
    have := gapLength gap
    simp only [List.length_cons] at *
    omega
  | noElement gap | noMember gap => exact gapLength gap
  | element comma _ _ ih ih' => have := commaLength comma; omega
  | member comma quote chars colon _ _ ih ih' =>
    have := commaLength comma
    have := gapLength quote
    have := l.charsShorter chars
    have := gapLength colon
    simp only [List.length_cons] at *
    omega

theorem spellsMono {l l' : Leaves} (numbers : ∀ {n cs rest}, l.number n cs rest → l'.number n cs rest)
    (chars : ∀ {s cs rest}, l.chars s cs rest → l'.chars s cs rest) {p : Part} {cs rest : List Char}
    (spells : Spells l p cs rest) : Spells l' p cs rest := by
  induction spells with
  | null word => exact .null word
  | yes word => exact .yes word
  | no word => exact .no word
  | number gap number => exact .number gap (numbers number)
  | text quote written => exact .text quote (chars written)
  | array bracket _ ih => exact .array bracket ih
  | object brace _ ih => exact .object brace ih
  | noElement bracket => exact .noElement bracket
  | element comma _ _ ih ih' => exact .element comma ih ih'
  | noMember brace => exact .noMember brace
  | member comma quote written colon _ _ ih ih' =>
    exact .member comma quote (chars written) colon ih ih'

theorem leadingDigit {n : Nat} (some : n ≠ 0) : ∃ c cs, Nat.toDigits 10 n = c :: cs ∧ c ≠ '0' := by
  induction n using Nat.base_induction 10 (by decide) with
  | single m small =>
    exact ⟨_,[],Nat.toDigits_of_lt_base small,by simpa using some⟩
  | digit m k small positive ih =>
    obtain ⟨c,cs,digits,leading⟩ := ih (Nat.ne_of_gt positive)
    rw [← Nat.toDigits_append_toDigits (by decide) positive small,digits]
    exact ⟨c,_,rfl,leading⟩

theorem digitsOfDecimal (n : Nat) : ∀ c ∈ Nat.toDigits 10 n, c.isDigit = true :=
  fun _ => Nat.isDigit_of_mem_toDigits (by decide) (by decide)

theorem digitsOfAll {ds : List Char} (some : ds ≠ []) (digits : ∀ c ∈ ds, c.isDigit = true)
    (rest : List Char) : Digits (ds ++ rest) rest := by
  induction ds with
  | nil => contradiction
  | cons d ds ih =>
    have digit := digits d List.mem_cons_self
    cases ds with
    | nil => exact .last digit
    | cons e es => exact .more digit (ih (by simp) fun c member => digits c (List.mem_cons_of_mem d member))

theorem wholeDecimal (n : Nat) (rest : List Char) : Whole (Nat.toDigits 10 n ++ rest) rest := by
  by_cases zero : n = 0
  · subst zero
    exact .zero
  · obtain ⟨c,cs,digits,leading⟩ := leadingDigit zero
    have all := digitsOfAll Nat.toDigits_ne_nil (digitsOfDecimal n) rest
    rw [digits] at all ⊢
    exact .digits leading all

theorem signedInteger (i : Int) (rest : List Char) : Signed (intText i ++ rest) rest := by
  unfold intText
  split
  · exact .minus (.mk (wholeDecimal _ rest) .none .none)
  · exact .plus (.mk (wholeDecimal _ rest) .none .none)

theorem digitsShorter {cs rest : List Char} (digits : Digits cs rest) : rest.length < cs.length := by
  induction digits with
  | last => exact Nat.lt_succ_self _
  | more _ _ ih => exact Nat.lt_succ_of_lt ih

theorem digitsStart {cs rest : List Char} (digits : Digits cs rest) :
    ∃ c ds, cs = c :: ds ∧ c.isDigit = true := by
  cases digits with
  | last digit | more digit => exact ⟨_,_,rfl,digit⟩

theorem unsignedShorter {cs rest : List Char} (unsigned : Unsigned cs rest) : rest.length < cs.length := by
  obtain ⟨whole,fraction,exponent⟩ := unsigned
  rename_i ds es
  have first : ds.length < cs.length := by
    cases whole with
    | zero => exact Nat.lt_succ_self _
    | digits _ digits => exact digitsShorter digits
  have second : es.length ≤ ds.length := by
    cases fraction with
    | none => exact Nat.le_refl _
    | digits digits => exact Nat.le_succ_of_le (Nat.le_of_lt (digitsShorter digits))
  have third : rest.length ≤ es.length := by
    cases exponent with
    | none => exact Nat.le_refl _
    | digits _ sign digits =>
      have := digitsShorter digits
      rcases sign with rfl | rfl | rfl <;> simp only [List.length_cons] <;> omega
  omega

theorem signedShorter {cs rest : List Char} (signed : Signed cs rest) : rest.length < cs.length := by
  cases signed with
  | plus unsigned => exact unsignedShorter unsigned
  | minus unsigned => exact Nat.lt_succ_of_lt (unsignedShorter unsigned)

theorem unsignedStart {cs rest : List Char} (unsigned : Unsigned cs rest) :
    ∃ c ds, cs = c :: ds ∧ c.isDigit = true := by
  obtain ⟨whole,_,_⟩ := unsigned
  cases whole with
  | zero => exact ⟨_,_,rfl,rfl⟩
  | digits _ digits => exact digitsStart digits

theorem signedStart {cs rest : List Char} (signed : Signed cs rest) :
    ∃ c ds, cs = c :: ds ∧ (c = '-' ∨ c.isDigit = true) := by
  cases signed with
  | minus => exact ⟨_,_,rfl,.inl rfl⟩
  | plus unsigned =>
    obtain ⟨c,ds,start,digit⟩ := unsignedStart unsigned
    exact ⟨c,ds,start,.inr digit⟩

theorem hexShorter {n : Nat} {cs rest : List Char} (unit : Hex4 n cs rest) :
    rest.length + 4 = cs.length := by
  cases unit
  rfl

theorem quotableShorter {cs rest : List Char} (quotable : Quotable cs rest) : rest.length < cs.length := by
  induction quotable with
  | close => exact Nat.lt_succ_self _
  | plain _ _ ih => exact Nat.lt_succ_of_lt ih
  | short _ _ ih => exact Nat.lt_succ_of_lt (Nat.lt_succ_of_lt ih)
  | unit unit _ ih =>
    have := hexShorter unit
    simp only [List.length_cons]
    omega

namespace Leaves

def loose : Leaves where
  number _ := Signed
  chars _ := Quotable
  numberStart := signedStart
  numberShorter := signedShorter
  charsShorter := quotableShorter

def exact : Leaves where
  number n cs rest := ∃ i, n = .integer i ∧ cs = intText i ++ rest
  chars s := Written s.toList
  numberStart := by
    rintro _ _ rest ⟨i,-,rfl⟩
    exact signedStart (signedInteger i rest)
  numberShorter := by
    rintro _ _ rest ⟨i,-,rfl⟩
    exact signedShorter (signedInteger i rest)
  charsShorter written := quotableShorter (quotableOfWritten written)

end Leaves

theorem looseOfExact {p : Part} {cs rest : List Char} (spells : Spells .exact p cs rest) :
    Spells .loose p cs rest := by
  refine spellsMono ?_ quotableOfWritten spells
  rintro _ _ rest ⟨i,-,rfl⟩
  exact signedInteger i rest

def IsInteger (i : Int) : Prop := -(Bits.count 63 : Int) ≤ i ∧ i < Bits.count 64

inductive Faithful : Nat → Json → Prop where
  | null {depth} : Faithful depth .null
  | bool {depth b} : Faithful depth (.bool b)
  | number {depth i} (integer : IsInteger i) : Faithful depth (.number (.integer i))
  | text {depth s} : Faithful depth (.text s)
  | array {depth xs} (all : ∀ x ∈ xs, Faithful depth x) : Faithful (depth + 1) (.array xs)
  | object {depth} {ms : List (String × Json)} (distinct : (ms.map (·.1)).Nodup)
      (all : ∀ m ∈ ms, Faithful depth m.2) : Faithful (depth + 1) (.object ms)

end Querent.Json
