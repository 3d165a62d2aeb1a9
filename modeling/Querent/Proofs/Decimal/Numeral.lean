import Querent.Decimal
import Querent.Proofs.Text.Cut

/-! How decimal numbers are written: a sign, digits with a point among them, and a power of ten. What is
so written is what is read. -/
namespace Querent.Decimal

inductive Whole : List Char → Nat → Prop where
  | mk {c rest} (first : c.isDigit = true) (others : ∀ d ∈ rest, d.isDigit = true ∨ d = '_') :
      Whole (c :: rest) (Nat.ofDigitChars 10 ((c :: rest).filter Char.isDigit) 0)

inductive Signed : List Char → (negative : Bool) → Nat → Prop where
  | bare {cs n} (whole : Whole cs n) : Signed cs false n
  | plus {cs n} (whole : Whole cs n) : Signed ('+' :: cs) false n
  | minus {cs n} (whole : Whole cs n) : Signed ('-' :: cs) true n

def places (cs : List Char) : Nat := (cs.filter (· != '_')).length

inductive Pointed : List Char → (negative : Bool) → (coefficient places : Nat) → Prop where
  | whole {cs negative n} (signed : Signed cs negative n) : Pointed cs negative n 0
  | point {before after negative n} (signed : Signed (before ++ after) negative n) :
      Pointed (before ++ '.' :: after) negative n (places after)

inductive Power : List Char → Int → Prop where
  | none : Power [] 0
  | some {mark cs negative n} (marked : mark = 'e' ∨ mark = 'E') (bare : '_' ∉ cs)
      (signed : Signed cs negative n) : Power (mark :: cs) (if negative then -(n : Int) else n)

inductive Spelled : List Char → Decimal → Prop where
  | mk {cs ds negative coefficient places power} (pointed : Pointed cs negative coefficient places)
      (powered : Power ds power) : Spelled (cs ++ ds) ⟨negative,coefficient,places - power⟩

theorem foldDigits (cs : List Char) :
    cs.foldl (fun n c => n * 10 + (c.toNat - 48)) 0 = Nat.ofDigitChars 10 cs 0 := by
  rw [Nat.ofDigitChars_eq_foldl]
  congr 1
  funext n c
  rw [Nat.mul_comm]
  rfl

theorem naturalIff {cs : List Char} {n : Nat} : natural? cs = some n ↔ Whole cs n := by
  constructor
  · intro read
    cases cs with
    | nil => contradiction
    | cons c rest =>
      rw [natural?,foldDigits] at read
      split at read <;> cases read
      rename_i digits
      simp only [Bool.and_eq_true,List.all_eq_true,Bool.or_eq_true,beq_iff_eq] at digits
      exact .mk digits.1 digits.2
  · rintro ⟨first,others⟩
    rw [natural?,foldDigits,if_pos]
    simpa [first] using others

theorem signedIff {cs : List Char} {negative : Bool} {n : Nat} :
    signed? cs = some (negative,n) ↔ Signed cs negative n := by
  constructor
  · intro read
    unfold signed? at read
    split at read <;>
      simp only [Option.map_eq_some_iff,Prod.mk.injEq,naturalIff] at read <;>
      obtain ⟨_,whole,rfl,rfl⟩ := read
    · exact .minus whole
    · exact .plus whole
    · exact .bare whole
  · intro signed
    cases signed with
    | plus whole => simp [signed?,naturalIff.mpr whole]
    | minus whole => simp [signed?,naturalIff.mpr whole]
    | bare whole =>
      have read := naturalIff.mpr whole
      cases whole with
      | mk first others =>
        unfold signed?
        split
        · rename_i same
          cases same
          exact absurd first (by decide)
        · rename_i same
          cases same
          exact absurd first (by decide)
        · rw [read]
          rfl

theorem markedIff {cs : List Char} {power : Int} (stops : ∀ c ∈ cs.head?, unmarked c = false) :
    marked? cs = some power ↔ Power cs power := by
  constructor
  · intro read
    cases cs with
    | nil =>
      cases read
      exact .none
    | cons c cs =>
      rw [marked?,power?] at read
      split at read
      · contradiction
      · rename_i bare
        obtain ⟨⟨negative,n⟩,signed,rfl⟩ := Option.map_eq_some_iff.mp read
        have marked : c = 'e' ∨ c = 'E' := by simpa [unmarked,or_iff_not_imp_left] using stops c rfl
        exact .some marked (by simpa using bare) (signedIff.mp signed)
  · intro powered
    cases powered with
    | none => rfl
    | some _ bare signed =>
      rw [marked?,power?,if_neg (by simpa using bare),signedIff.mpr signed]
      rfl

theorem signedClean {cs : List Char} {negative : Bool} {n : Nat} (signed : Signed cs negative n) :
    ∀ c ∈ cs, c.isDigit = true ∨ c = '_' ∨ c = '+' ∨ c = '-' := by
  have clean {cs : List Char} {n : Nat} (whole : Whole cs n) : ∀ c ∈ cs, c.isDigit = true ∨ c = '_' := by
    cases whole with
    | mk first others => exact List.forall_mem_cons.mpr ⟨.inl first,others⟩
  intro c member
  cases signed with
  | bare whole => exact (clean whole c member).imp_right .inl
  | plus whole =>
    rcases List.mem_cons.mp member with rfl | member
    · simp
    · exact (clean whole c member).imp_right .inl
  | minus whole =>
    rcases List.mem_cons.mp member with rfl | member
    · simp
    · exact (clean whole c member).imp_right .inl

theorem signedWithout {cs : List Char} {negative : Bool} {n : Nat} (signed : Signed cs negative n) :
    ∀ c ∈ ['.','e','E'], c ∉ cs := by
  intro c other member
  have clean := signedClean signed c member
  simp only [List.mem_cons,List.not_mem_nil,or_false] at other
  rcases other with rfl | rfl | rfl <;> exact absurd clean (by decide)

theorem pointedIff {base whole fraction : List Char} {negative : Bool} {n k : Nat}
    (cut : base.span (· != '.') = (whole,fraction)) : Pointed base negative n k ↔
      signed? (whole ++ fraction.drop 1) = some (negative,n) ∧ k = places (fraction.drop 1) := by
  have others {cs : List Char} (without : '.' ∉ cs) : ∀ c ∈ cs, (c != '.') = true := by
    intro c member
    simpa using ne_of_mem_of_not_mem member without
  constructor
  · intro pointed
    cases pointed with
    | whole signed =>
      have stops : ∀ c ∈ ([] : List Char).head?, (c != '.') = false := nofun
      have uncut := Text.spanAppend (others (signedWithout signed '.' (by simp))) stops
      rw [List.append_nil,cut] at uncut
      cases uncut
      exact ⟨by simpa using signedIff.mpr signed,rfl⟩
    | @point before after _ _ signed =>
      have without : '.' ∉ before := fun member =>
        signedWithout signed '.' (by simp) (List.mem_append_left after member)
      have stops : ∀ c ∈ ('.' :: after).head?, (c != '.') = false := by simp
      have uncut := Text.spanAppend (others without) stops
      rw [cut] at uncut
      cases uncut
      exact ⟨signedIff.mpr signed,rfl⟩
  · rintro ⟨signed,rfl⟩
    obtain ⟨rfl,-,stops⟩ := Text.spanSplit cut
    rw [signedIff] at signed
    cases fraction with
    | nil =>
      rw [List.drop_nil,List.append_nil] at signed
      rw [List.append_nil]
      exact .whole signed
    | cons c after =>
      obtain rfl : c = '.' := by simpa using stops c rfl
      exact .point signed

theorem pointedUnmarked {cs : List Char} {negative : Bool} {n k : Nat}
    (pointed : Pointed cs negative n k) : ∀ c ∈ cs, unmarked c = true := by
  have other {cs : List Char} {negative : Bool} {n : Nat} (signed : Signed cs negative n) :
      ∀ c ∈ cs, unmarked c = true := by
    intro c member
    have e := ne_of_mem_of_not_mem member (signedWithout signed 'e' (by simp))
    have E := ne_of_mem_of_not_mem member (signedWithout signed 'E' (by simp))
    simp [unmarked,e,E]
  cases pointed with
  | whole signed => exact other signed
  | point signed =>
    obtain ⟨before,after⟩ := List.forall_mem_append.mp (other signed)
    exact List.forall_mem_append.mpr ⟨before,List.forall_mem_cons.mpr ⟨rfl,after⟩⟩

theorem powerMarked {cs : List Char} {power : Int} (powered : Power cs power) :
    ∀ c ∈ cs.head?, unmarked c = false := by
  cases powered with
  | none => nofun
  | some marked =>
    rintro _ ⟨⟩
    rcases marked with rfl | rfl <;> rfl

theorem numeralIff {cs : List Char} {d : Decimal} : numeral? cs = some d ↔ Spelled cs d := by
  constructor
  · intro read
    cases cut : cs.span unmarked with
    | mk base rest =>
      cases cut' : base.span (· != '.') with
      | mk whole fraction =>
        obtain ⟨rfl,-,stops⟩ := Text.spanSplit cut
        simp only [numeral?,cut,cut',bind,Option.bind_eq_some_iff,Prod.exists,Option.some.injEq] at read
        obtain ⟨power,powered,negative,coefficient,signed,rfl⟩ := read
        exact .mk ((pointedIff cut').mpr ⟨signed,rfl⟩) ((markedIff stops).mp powered)
  · rintro @⟨base,rest,negative,coefficient,k,power,pointed,powered⟩
    have stops := powerMarked powered
    have cut := Text.spanAppend (pointedUnmarked pointed) stops
    cases cut' : base.span (· != '.') with
    | mk whole fraction =>
      obtain ⟨signed,rfl⟩ := (pointedIff cut').mp pointed
      simp only [numeral?,cut,cut',(markedIff stops).mpr powered,signed,bind,Option.bind]
      rfl

theorem parseIff {cs : List Char} {d : Decimal} :
    parse? cs = some d ↔ Spelled cs d ∧ isScale d.scale = true := by
  rw [parse?,Option.filter_eq_some_iff,numeralIff]

theorem spelledUnique {cs : List Char} {d d' : Decimal} (spelled : Spelled cs d) (spelled' : Spelled cs d') :
    d = d' := by
  rw [← numeralIff] at spelled spelled'
  exact Option.some.inj (spelled.symm.trans spelled')

end Querent.Decimal
