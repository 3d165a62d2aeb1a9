import Mathlib.Algebra.Group.Nat.Defs
import Querent.Text.Utf8

/-! Text as octets. At each point of some octets either a character stands, or the longest start of one
stands for nothing; the machine finds these parts, and so it reads back what is written. -/
namespace Querent.Text.Utf8
open String (utf8EncodeChar)

def tails : (owed n : Nat) → Octets
  | 0, n => [UInt8.ofNat (n % 64 + 128)]
  | owed + 1, n => UInt8.ofNat (n / 64 ^ (owed + 1) % 64 + 128) :: tails owed n

-- The octets to come after the first, its mark, and the numbers that are so written.
inductive Size : (owed mark least most : Nat) → Prop where
  | two : Size 0 0xC0 0x80 0x800
  | three : Size 1 0xE0 0x800 0x10000
  | four : Size 2 0xF0 0x10000 0x110000

inductive Encoded (n : Nat) : Octets → Prop where
  | one (high : n < 0x80) : Encoded n [UInt8.ofNat n]
  | more {owed mark least most : Nat} (size : Size owed mark least most) (low : least ≤ n)
      (high : n < most) : Encoded n (UInt8.ofNat (n / 64 ^ (owed + 1) + mark) :: tails owed n)

theorem toNatValid (c : Char) : c.toNat.isValidChar := by
  rw [← Char.toNat_val]
  exact c.valid

theorem encoded (c : Char) : Encoded c.toNat (utf8EncodeChar c) := by
  have valid : c.toNat < 0x110000 := by
    rcases toNatValid c with small | ⟨-,large⟩ <;> omega
  simp only [utf8EncodeChar,Char.toNat_val]
  split
  · exact .one (by omega)
  · split
    · have mark : c.toNat / 64 % 32 = c.toNat / 64 := by omega
      rw [mark]
      exact .more .two (by omega) (by omega)
    · split
      · have mark : c.toNat / 4096 % 16 = c.toNat / 4096 := by omega
        rw [mark]
        exact .more .three (by omega) (by omega)
      · have mark : c.toNat / 262144 % 8 = c.toNat / 262144 := by omega
        rw [mark]
        exact .more .four (by omega) valid

structure Within (owed bits low high n : Nat) : Prop where
  bits : n / 64 ^ (owed + 1) = bits
  low : low ≤ n / 64 ^ owed % 64 + 128
  high : n / 64 ^ owed % 64 + 128 ≤ high

structure Begun (p : Octets) (owed bits low high : Nat) : Prop where
  bounds : 128 ≤ low ∧ low ≤ high ∧ high ≤ 191
  valid : ∀ {n}, Within owed bits low high n → n.isValidChar
  char : ∀ {c : Char}, Within owed bits low high c.toNat → utf8EncodeChar c = p ++ tails owed c.toNat
  only : ∀ {c}, p <+: utf8EncodeChar c → Within owed bits low high c.toNat
  short : ∀ {c}, ¬ utf8EncodeChar c <+: p

theorem toNatOfNumber {n : Nat} (valid : n.isValidChar) : (Char.ofNat n).toNat = n := by
  rw [Char.ofNat,dif_pos valid]
  rfl

section Lead
variable {owed mark least most bits low high n : Nat} {b : UInt8}

theorem toNatOfNat (small : n < 256) : (UInt8.ofNat n).toNat = n := by
  rw [UInt8.toNat_ofNat']
  omega

theorem sizeMark (size : Size owed mark least most) (inside : n < most) :
    0x80 ≤ mark ∧ 0x80 ≤ least ∧ most ≤ 0x110000 ∧ n / 64 ^ (owed + 1) + mark < 256 := by
  cases size <;> omega

theorem sizeNumber {owed' mark' least' most' : Nat} (size : Size owed mark least most)
    (size' : Size owed' mark' least' most') (inside : least ≤ n ∧ n < most)
    (inside' : least' ≤ n ∧ n < most') : owed = owed' ∧ mark = mark' := by
  cases size <;> cases size' <;> first | exact ⟨rfl,rfl⟩ | omega

theorem sizeOctet {owed' mark' least' most' : Nat} (size : Size owed mark least most)
    (size' : Size owed' mark' least' most') (small : bits * 64 ^ (owed + 1) < most) (inside' : n < most')
    (head : bits + mark = n / 64 ^ (owed' + 1) + mark') :
    owed = owed' ∧ bits = n / 64 ^ (owed + 1) ∧ least = least' ∧ most = most' := by
  cases size <;> cases size' <;> first | exact ⟨rfl,by omega,rfl,rfl⟩ | omega

theorem begunLead (size : Size owed mark least most) (head : bits + mark = b.toNat)
    (small : bits * 64 ^ (owed + 1) < most) (bounds : 128 ≤ low ∧ low ≤ high ∧ high ≤ 191)
    (valid : ∀ n, Within owed bits low high n → least ≤ n ∧ n < most ∧ (n < 0xD800 ∨ 0xDFFF < n))
    (only : ∀ n, least ≤ n → n < most → (n < 0xD800 ∨ 0xDFFF < n) → n / 64 ^ (owed + 1) = bits →
      low ≤ n / 64 ^ owed % 64 + 128 ∧ n / 64 ^ owed % 64 + 128 ≤ high) :
    Begun [b] owed bits low high := by
  have notOne {n : Nat} (one : n < 0x80) : UInt8.ofNat n ≠ b := by
    rintro rfl
    rw [toNatOfNat (by omega)] at head
    have := sizeMark size small
    omega
  refine ⟨bounds,?_,?_,?_,?_⟩
  · intro n inside
    obtain ⟨-,upper,scalar⟩ := valid n inside
    have most := (sizeMark size upper).2.2.1
    exact scalar.imp_right fun large => ⟨large,by omega⟩
  · intro c inside
    obtain ⟨lower,upper,-⟩ := valid _ inside
    have encoded := encoded c
    generalize utf8EncodeChar c = cs at encoded
    cases encoded with
    | one one =>
      have := sizeMark size upper
      omega
    | more size' lower' upper' =>
      obtain ⟨rfl,rfl⟩ := sizeNumber size size' ⟨lower,upper⟩ ⟨lower',upper'⟩
      rw [inside.bits,head,UInt8.ofNat_toNat]
      rfl
  · intro c begins
    have scalar := (toNatValid c).imp_right And.left
    have encoded := encoded c
    generalize utf8EncodeChar c = cs at encoded begins
    cases encoded with
    | one one => exact absurd (List.cons_prefix_cons.mp begins).1.symm (notOne one)
    | more size' lower' upper' =>
      obtain ⟨rfl,-⟩ := List.cons_prefix_cons.mp begins
      rw [toNatOfNat (sizeMark size' upper').2.2.2] at head
      obtain ⟨rfl,same,rfl,rfl⟩ := sizeOctet size size' small upper' head
      obtain ⟨low,high⟩ := only _ lower' upper' scalar same.symm
      exact ⟨same.symm,low,high⟩
  · intro c whole
    have encoded := encoded c
    generalize utf8EncodeChar c = cs at encoded whole
    cases encoded with
    | one one => exact notOne one (List.cons_prefix_cons.mp whole).1
    | @more owed' _ _ _ _ _ _ =>
      have long := whole.length_le
      cases owed' <;> simp [tails] at long

end Lead

inductive Led (b : UInt8) : State ⊕ Piece → Prop where
  | scalar {c : Char} (whole : [b] = utf8EncodeChar c) : Led b (.inr (.scalar c))
  | begun {owed bits low high : Nat} (begun : Begun [b] owed bits low high) :
      Led b (.inl (.inside 1 owed bits low high))
  | broken (none : ∀ c, ¬ [b] <+: utf8EncodeChar c) : Led b (.inr (.broken 1))

theorem led (b : UInt8) : Led b (lead b.toNat) := by
  unfold lead
  simp only [Bool.and_eq_true,decide_eq_true_eq]
  -- The ranges of the octet that follows leave out what could be shorter or is no character.
  split
  · have same : (Char.ofNat b.toNat).toNat = b.toNat := toNatOfNumber (by left; omega)
    refine .scalar ?_
    simp [utf8EncodeChar,same]
    omega
  split
  · exact .begun (begunLead .two (by omega) (by omega) (by omega) (fun n ⟨bits,low,high⟩ => by omega)
      fun n _ _ _ _ => by omega)
  split
  · exact .begun (begunLead .three (by omega) (by omega) (by omega) (fun n ⟨bits,low,high⟩ => by omega)
      fun n _ _ _ _ => by omega)
  split
  · exact .begun (begunLead .three (by omega) (by omega) (by omega) (fun n ⟨bits,low,high⟩ => by omega)
      fun n _ _ _ _ => by omega)
  split
  · exact .begun (begunLead .three (by omega) (by omega) (by omega) (fun n ⟨bits,low,high⟩ => by omega)
      fun n _ _ _ _ => by omega)
  split
  · exact .begun (begunLead .four (by omega) (by omega) (by omega) (fun n ⟨bits,low,high⟩ => by omega)
      fun n _ _ _ _ => by omega)
  split
  · exact .begun (begunLead .four (by omega) (by omega) (by omega) (fun n ⟨bits,low,high⟩ => by omega)
      fun n _ _ _ _ => by omega)
  split
  · exact .begun (begunLead .four (by omega) (by omega) (by omega) (fun n ⟨bits,low,high⟩ => by omega)
      fun n _ _ _ _ => by omega)
  · refine .broken fun c begins => ?_
    have encoded := encoded c
    generalize utf8EncodeChar c = cs at encoded begins
    cases encoded with
    | one one =>
      obtain ⟨rfl,-⟩ := List.cons_prefix_cons.mp begins
      rw [toNatOfNat (by omega)] at *
      omega
    | more size lower upper =>
      obtain ⟨rfl,-⟩ := List.cons_prefix_cons.mp begins
      rw [toNatOfNat (sizeMark size upper).2.2.2] at *
      cases size <;> omega

section Begun
variable {p : Octets} {owed bits low high : Nat} {b : UInt8} {c : Char}

theorem tailsHead (owed n : Nat) :
    ∃ rest, tails owed n = UInt8.ofNat (n / 64 ^ owed % 64 + 128) :: rest := by
  cases owed with
  | zero => exact ⟨[],by simp [tails]⟩
  | succ owed => exact ⟨_,rfl⟩

theorem begunNext (begun : Begun p owed bits low high) : p ++ [b] <+: utf8EncodeChar c ↔
    Within owed bits low high c.toNat ∧ b.toNat = c.toNat / 64 ^ owed % 64 + 128 := by
  obtain ⟨rest,head⟩ := tailsHead owed c.toNat
  have octet : (UInt8.ofNat (c.toNat / 64 ^ owed % 64 + 128)).toNat = c.toNat / 64 ^ owed % 64 + 128 :=
    toNatOfNat (by omega)
  have follows (within : Within owed bits low high c.toNat) : p ++ [b] <+: utf8EncodeChar c ↔
      b.toNat = c.toNat / 64 ^ owed % 64 + 128 := by
    rw [begun.char within,List.prefix_append_right_inj,head,List.cons_prefix_cons,← UInt8.toNat_inj,octet]
    exact and_iff_left List.nil_prefix
  constructor
  · intro begins
    have within := begun.only ((List.prefix_append p [b]).trans begins)
    exact ⟨within,(follows within).mp begins⟩
  · rintro ⟨within,same⟩
    exact (follows within).mpr same

theorem withinNext {next n : Nat} (bounds : 128 ≤ low ∧ high ≤ 191) (inside : low ≤ next ∧ next ≤ high) :
    n / 64 ^ owed = bits * 64 + (next - 128) ↔
      Within owed bits low high n ∧ next = n / 64 ^ owed % 64 + 128 := by
  have higher : n / 64 ^ (owed + 1) = n / 64 ^ owed / 64 := by
    rw [Nat.pow_succ,Nat.div_div_eq_div_mul]
  constructor
  · intro number
    exact ⟨⟨by omega,by omega,by omega⟩,by omega⟩
  · rintro ⟨⟨bits,-,-⟩,next⟩
    omega

theorem begunFurther (begun : Begun p (owed + 1) bits low high) (inside : low ≤ b.toNat ∧ b.toNat ≤ high) :
    Begun (p ++ [b]) owed (bits * 64 + (b.toNat - 128)) 128 191 := by
  obtain ⟨least,-,most⟩ := begun.bounds
  have further {n : Nat} : Within owed (bits * 64 + (b.toNat - 128)) 128 191 n ↔
      Within (owed + 1) bits low high n ∧ b.toNat = n / 64 ^ (owed + 1) % 64 + 128 := by
    rw [← withinNext ⟨least,most⟩ inside]
    exact ⟨Within.bits,fun number => ⟨number,by omega,by omega⟩⟩
  refine ⟨by omega,fun within => begun.valid (further.mp within).1,?_,?_,?_⟩
  · intro c within
    obtain ⟨within,next⟩ := further.mp within
    rw [begun.char within,List.append_assoc,tails,← next,UInt8.ofNat_toNat]
    rfl
  · intro c begins
    exact further.mpr ((begunNext begun).mp begins)
  · intro c whole
    rcases List.prefix_concat_iff.mp whole with same | before
    · rw [begun.char (begun.only (same ▸ List.prefix_append p [b]))] at same
      cases owed <;> simp [tails] at same
    · exact begun.short before

theorem begunWhole (begun : Begun p 0 bits low high) (inside : low ≤ b.toNat ∧ b.toNat ≤ high) :
    p ++ [b] = utf8EncodeChar (Char.ofNat (bits * 64 + (b.toNat - 128))) := by
  obtain ⟨least,-,most⟩ := begun.bounds
  have number : (bits * 64 + (b.toNat - 128)) / 64 ^ 0 = bits * 64 + (b.toNat - 128) := Nat.div_one _
  obtain ⟨within,next⟩ := (withinNext ⟨least,most⟩ inside).mp number
  have same := toNatOfNumber (begun.valid within)
  rw [← same] at within
  rw [begun.char within,same,tails]
  simp only [Nat.pow_zero,Nat.div_one] at next
  rw [← next,UInt8.ofNat_toNat]

theorem begunRefused (begun : Begun p owed bits low high) (outside : ¬ (low ≤ b.toNat ∧ b.toNat ≤ high)) :
    ¬ p ++ [b] <+: utf8EncodeChar c := by
  intro begins
  obtain ⟨⟨-,least,most⟩,next⟩ := (begunNext begun).mp begins
  exact outside (by omega)

theorem begunSome (begun : Begun p owed bits low high) : ∃ c, p <+: utf8EncodeChar c := by
  obtain ⟨least,order,most⟩ := begun.bounds
  have number : (bits * 64 + (low - 128)) * 64 ^ owed / 64 ^ owed = bits * 64 + (low - 128) :=
    Nat.mul_div_cancel _ (Nat.pow_pos (by decide))
  have within := ((withinNext ⟨least,most⟩ ⟨Nat.le_refl low,order⟩).mp number).1
  have same := toNatOfNumber (begun.valid within)
  rw [← same] at within
  exact ⟨_,begun.char within ▸ List.prefix_append p _⟩

end Begun

structure Broken (p rest : Octets) : Prop where
  none : ∀ c, ¬ utf8EncodeChar c <+: p ++ rest
  some : p ≠ []
  start : (∃ c, p <+: utf8EncodeChar c) ∨ p.length = 1
  longest : ∀ q c, q <+: p ++ rest → q <+: utf8EncodeChar c → q <+: p

inductive Parts : Octets → List Piece → Prop where
  | nil : Parts [] []
  | scalar {c rest parts} (more : Parts rest parts) :
      Parts (utf8EncodeChar c ++ rest) (.scalar c :: parts)
  | broken {p rest parts} (broken : Broken p rest) (more : Parts rest parts) :
      Parts (p ++ rest) (.broken p.length :: parts)
  | cut {p} (broken : Broken p []) : Parts p [.cut p.length]

theorem prefixNext {p q rest : Octets} {b : UInt8} (stands : q <+: p ++ b :: rest) :
    q <+: p ∨ p ++ [b] <+: q := by
  rw [show p ++ b :: rest = (p ++ [b]) ++ rest by simp] at stands
  rcases List.prefix_or_prefix_of_prefix stands (List.prefix_append (p ++ [b]) rest) with before | after
  · rcases List.prefix_concat_iff.mp before with rfl | before
    · exact .inr (List.prefix_refl _)
    · exact .inl before
  · exact .inr after

theorem brokenBegun {p rest : Octets} {owed bits low high : Nat} (begun : Begun p owed bits low high)
    (some : p ≠ []) (stop : ∀ b ∈ rest.head?, ¬ (low ≤ b.toNat ∧ b.toNat ≤ high)) : Broken p rest := by
  have inside {q c} (stands : q <+: p ++ rest) (begins : q <+: utf8EncodeChar c) : q <+: p := by
    cases rest with
    | nil =>
      rw [List.append_nil] at stands
      exact stands
    | cons b rest =>
      rcases prefixNext stands with before | after
      · exact before
      · exact absurd (after.trans begins) (begunRefused begun (stop b rfl))
  exact ⟨fun c whole => begun.short (inside whole (List.prefix_refl _)),some,.inl (begunSome begun),
    fun q c => inside⟩

theorem brokenAlone {b : UInt8} (none : ∀ c, ¬ [b] <+: utf8EncodeChar c) (rest : Octets) :
    Broken [b] rest := by
  have before {q c} (stands : q <+: [b] ++ rest) (begins : q <+: utf8EncodeChar c) : q = [] := by
    rcases prefixNext (p := []) stands with before | after
    · exact List.prefix_nil.mp before
    · exact absurd (after.trans begins) (none c)
  refine ⟨fun c whole => ?_,List.cons_ne_nil _ _,.inr rfl,fun q c stands begins => ?_⟩
  · exact String.utf8EncodeChar_ne_nil (before whole (List.prefix_refl _))
  · rw [before stands begins]
    exact List.nil_prefix

theorem piecesRefused {seen owed bits low high : Nat} {b : UInt8}
    (outside : ¬ (low ≤ b.toNat ∧ b.toNat ≤ high)) (rest : Octets) :
    pieces (.inside seen owed bits low high) (b :: rest) = .broken seen :: pieces .start (b :: rest) := by
  have refused : (decide (low ≤ b.toNat) && decide (b.toNat ≤ high)) = false := by
    simpa using outside
  rw [pieces,pieces,if_neg (by simp [refused])]
  cases lead b.toNat <;> rfl

theorem partsFrom (octets : Octets) : Parts octets (pieces .start octets) ∧
    ∀ {p owed bits low high}, Begun p owed bits low high → p ≠ [] →
      Parts (p ++ octets) (pieces (.inside p.length owed bits low high) octets) := by
  -- Both states are needed at once: a refused octet is looked at again from the start.
  induction octets with
  | nil =>
    refine ⟨.nil,fun begun some => ?_⟩
    rw [List.append_nil]
    exact .cut (brokenBegun begun some nofun)
  | cons b rest ih =>
    obtain ⟨start,inside⟩ := ih
    have first : Parts (b :: rest) (pieces .start (b :: rest)) := by
      have led := led b
      rw [pieces]
      generalize lead b.toNat = outcome at led
      cases led with
      | scalar whole =>
        have same : b :: rest = utf8EncodeChar _ ++ rest := congrArg (· ++ rest) whole
        rw [same]
        exact .scalar start
      | begun begun => exact inside begun (List.cons_ne_nil _ _)
      | broken none => exact .broken (brokenAlone none rest) start
    refine ⟨first,fun {p owed bits low high} begun some => ?_⟩
    by_cases taken : low ≤ b.toNat ∧ b.toNat ≤ high
    · have takes : (decide (low ≤ b.toNat) && decide (b.toNat ≤ high)) = true := by simpa using taken
      rw [pieces,if_pos takes]
      cases owed with
      | zero =>
        rw [List.append_cons,begunWhole begun taken]
        exact .scalar start
      | succ owed =>
        have further := inside (begunFurther begun taken) (List.append_ne_nil_of_left_ne_nil some [b])
        rw [List.append_assoc,List.length_append] at further
        exact further
    · rw [piecesRefused taken]
      refine .broken (brokenBegun begun some ?_) first
      rintro _ ⟨⟩
      exact taken

theorem exactlyParts {octets : Octets} {parts : List Piece} {cs : List Char} {index : Nat}
    (stand : Parts octets parts) (read : exactly index parts = .ok cs) : octets = encode cs := by
  induction stand generalizing index cs with
  | nil =>
    cases read
    rfl
  | @scalar c rest parts more ih =>
    rw [exactly] at read
    cases rest_ : exactly (index + c.utf8Size) parts with
    | error fault =>
      rw [rest_] at read
      contradiction
    | ok ds =>
      rw [rest_] at read
      cases read
      rw [ih rest_]
      rfl
  | broken => contradiction
  | cut => contradiction

theorem encodeCharOnly {c d : Char} {xs ys : Octets}
    (same : utf8EncodeChar c ++ xs = utf8EncodeChar d ++ ys) : c = d := by
  have bytes := congrArg List.toByteArray same
  rw [List.toByteArray_append,List.toByteArray_append] at bytes
  have read := congrArg (ByteArray.utf8DecodeChar? · 0) bytes
  simp only [ByteArray.utf8DecodeChar?_utf8EncodeChar_append] at read
  exact Option.some.inj read

theorem partsNil {parts : List Piece} (stand : Parts [] parts) : parts = [] := by
  generalize same : [] = octets at stand
  cases stand with
  | nil => rfl
  | scalar => exact absurd (List.append_eq_nil_iff.mp same.symm).1 String.utf8EncodeChar_ne_nil
  | broken broken => exact absurd (List.append_eq_nil_iff.mp same.symm).1 broken.some
  | cut broken => exact absurd same.symm broken.some

theorem partsScalar {c : Char} {rest : Octets} {parts : List Piece}
    (stand : Parts (utf8EncodeChar c ++ rest) parts) :
    ∃ others, parts = .scalar c :: others ∧ Parts rest others := by
  generalize same : utf8EncodeChar c ++ rest = octets at stand
  cases stand with
  | nil => exact absurd (List.append_eq_nil_iff.mp same).1 String.utf8EncodeChar_ne_nil
  | scalar more =>
    cases encodeCharOnly same
    rw [← List.append_cancel_left same] at more
    exact ⟨_,rfl,more⟩
  | broken broken => exact absurd ⟨rest,same⟩ (broken.none c)
  | cut broken =>
    rw [← same] at broken
    exact absurd ((List.prefix_append _ _).trans (List.prefix_append _ _)) (broken.none c)

theorem partsEncoded {cs : List Char} {parts : List Piece} (stand : Parts (encode cs) parts) :
    parts = cs.map .scalar := by
  induction cs generalizing parts with
  | nil => exact partsNil stand
  | cons c cs ih =>
    rw [encode,List.flatMap_cons] at stand
    obtain ⟨others,rfl,more⟩ := partsScalar stand
    rw [ih more]
    rfl

theorem exactlyScalars (cs : List Char) (index : Nat) : exactly index (cs.map .scalar) = .ok cs := by
  induction cs generalizing index with
  | nil => rfl
  | cons c cs ih =>
    rw [List.map_cons,exactly,ih]
    rfl

theorem decodeIff {octets : Octets} {cs : List Char} : decode octets = .ok cs ↔ octets = encode cs := by
  constructor
  · exact exactlyParts (partsFrom octets).1
  · rintro rfl
    rw [decode,partsEncoded (partsFrom (encode cs)).1]
    exact exactlyScalars cs 0

theorem brokenSame {p q xs ys : Octets} (first : Broken p xs) (second : Broken q ys)
    (same : p ++ xs = q ++ ys) : p <+: q := by
  have stands : p <+: q ++ ys := same ▸ List.prefix_append p xs
  rcases first.start with ⟨c,begins⟩ | one
  · exact second.longest p c stands begins
  · have some := List.length_pos_iff.mpr second.some
    exact List.prefix_of_prefix_length_le stands (List.prefix_append q ys) (by omega)

theorem brokenUnique {p q xs ys : Octets} (first : Broken p xs) (second : Broken q ys)
    (same : p ++ xs = q ++ ys) : p = q :=
  (brokenSame first second same).eq_of_length_le (brokenSame second first same.symm).length_le

theorem partsBroken {p rest : Octets} {parts : List Piece} (broken : Broken p rest)
    (stand : Parts (p ++ rest) parts) : (∃ others, parts = .broken p.length :: others ∧ Parts rest others) ∨
      (rest = [] ∧ parts = [.cut p.length]) := by
  generalize same : p ++ rest = octets at stand
  cases stand with
  | nil => exact absurd (List.append_eq_nil_iff.mp same).1 broken.some
  | scalar => exact absurd ⟨_,same.symm⟩ (broken.none _)
  | broken broken' more =>
    cases brokenUnique broken broken' same
    rw [← List.append_cancel_left same] at more
    exact .inl ⟨_,rfl,more⟩
  | cut broken' =>
    have whole := brokenUnique broken broken' (same.trans (List.append_nil _).symm)
    subst whole
    exact .inr ⟨List.append_right_eq_self.mp same,rfl⟩

theorem partsUnique {octets : Octets} {parts others : List Piece} (stand : Parts octets parts)
    (stand' : Parts octets others) : parts.map Piece.shown = others.map Piece.shown := by
  induction stand generalizing others with
  | nil => rw [partsNil stand']
  | scalar more ih =>
    obtain ⟨others,rfl,more'⟩ := partsScalar stand'
    rw [List.map_cons,ih more',List.map_cons]
  | broken broken more ih =>
    rcases partsBroken broken stand' with ⟨others,rfl,more'⟩ | ⟨rfl,rfl⟩
    · rw [List.map_cons,ih more',List.map_cons]
    · rw [partsNil more]
      rfl
  | @cut p broken =>
    rw [← List.append_nil p] at stand'
    rcases partsBroken broken stand' with ⟨others,rfl,more⟩ | ⟨-,rfl⟩
    · rw [partsNil more]
      rfl
    · rfl

theorem shownIff {octets : Octets} {cs : List Char} :
    (∃ parts, Parts octets parts ∧ cs = parts.map Piece.shown) ↔ cs = lossy octets := by
  have stand := (partsFrom octets).1
  constructor
  · rintro ⟨parts,stand',rfl⟩
    exact partsUnique stand' stand
  · rintro rfl
    exact ⟨_,stand,rfl⟩

end Querent.Text.Utf8
