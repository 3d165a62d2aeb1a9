import Mathlib.Data.Nat.Digits.Lemmas
import Querent.Proofs.Database.Record
import Querent.Proofs.Decimal.Value
import Querent.Proofs.Text.Utf8

/-! Exact numbers in a record. Integers stay integers, and decimal numbers become texts that stand for
them; none is rounded. -/
namespace Querent
open Database
open Text.Utf8 (Octets encode decodeIff)

namespace Database
variable {ν : Type} {decoder : Decoder ν} {decoders : List (Decoder ν)} {v : ν}

theorem decodeFirst {j : Json} (taken : decoder v = some j) : decodeBy (decoder :: decoders) v = j := by
  rw [decodeBy,List.findSome?_cons,taken]
  rfl

theorem decodeNext (passed : decoder v = none) :
    decodeBy (decoder :: decoders) v = decodeBy decoders v := by
  rw [decodeBy,List.findSome?_cons,passed]
  rfl

end Database

namespace Decimal

def groupsValue : (weight : Int) → List Nat → ℚ
  | _, [] => 0
  | weight, group :: groups => group * 10000 ^ weight + groupsValue (weight - 1) groups

theorem foldGroups (groups : List Nat) (n : Nat) (weight : Int) :
    ((groups.foldl (fun n group => n * 10000 + group) n : Nat) : ℚ) * 10000 ^ (weight + 1 - groups.length) =
      n * 10000 ^ (weight + 1) + groupsValue weight groups := by
  induction groups generalizing n weight with
  | nil => simp [groupsValue]
  | cons group groups ih =>
    have further := ih (n * 10000 + group) (weight - 1)
    have power : weight - 1 + 1 - (groups.length : Int) = weight + 1 - ((group :: groups).length : Int) := by
      simp only [List.length_cons]
      omega
    have higher : (10000 : ℚ) ^ (weight + 1) = 10000 ^ weight * 10000 := zpow_add_one₀ (by decide) weight
    rw [power,Int.sub_add_cancel] at further
    rw [List.foldl_cons,further,groupsValue,higher]
    push_cast
    ring

theorem valueGroups (negative : Bool) (weight : Int) (groups : List Nat) :
    (ofGroups negative weight groups).value =
      (if negative then -1 else 1) * groupsValue weight groups := by
  have fold := foldGroups groups 0 weight
  have power : (10 : ℚ) ^ (-(4 * ((groups.length : Int) - weight - 1))) =
      10000 ^ (weight + 1 - groups.length) := by
    have base : (10000 : ℚ) = 10 ^ (4 : Int) := by norm_num
    rw [base,← zpow_mul]
    congr 1
    ring
  rw [Nat.cast_zero,zero_mul,zero_add] at fold
  rw [value,ofGroups,power,mul_assoc,fold]

end Decimal

namespace MySql.Value

def number (octets : Octets) : Nat := Nat.ofDigits 256 (octets.reverse.map UInt8.toNat)

theorem bitsNumber (octets : Octets) : bits octets = number octets := by
  induction octets using List.reverseRecOn with
  | nil => rfl
  | append_singleton octets octet ih =>
    rw [bits,List.foldl_append,← bits,ih]
    simp [number,Nat.ofDigits_cons]
    ring

theorem numberLess {octets : Octets} (short : octets.length ≤ 8) : number octets < 2 ^ 64 := by
  have less := Nat.ofDigits_lt_base_pow_length (b := 256) (l := octets.reverse.map UInt8.toNat) (by decide)
    (by
      intro digit member
      obtain ⟨octet,-,rfl⟩ := List.mem_map.mp member
      exact octet.toNat_lt)
  rw [List.length_map,List.length_reverse] at less
  calc number octets < 256 ^ octets.length := less
    _ ≤ 256 ^ 8 := Nat.pow_le_pow_right (by decide) short
    _ = 2 ^ 64 := by decide

theorem signedFits (n : Int64) : Bits.fits 63 n.toInt = true := by
  have low := n.le_toInt
  have high := n.toInt_lt
  have count : Bits.count 63 = 9223372036854775808 := rfl
  rw [Bits.fits,count,Bool.and_eq_true,decide_eq_true_eq,decide_eq_true_eq]
  omega

theorem signedToJson (n : Int64) : (signed n).toJson = .int n.toInt :=
  decodeFirst (if_pos (signedFits n))

theorem unsignedToJson (n : UInt64) : (unsigned n).toJson = .nat n.toNat :=
  (decodeNext rfl).trans (decodeFirst (if_pos n.toNat_lt))

theorem bitToJson {octets : Octets} (short : octets.length ≤ 8) :
    (bit true octets).toJson = .nat (number octets) := by
  have fits : number octets < Bits.count 64 := numberLess short
  have taken : unsignedIn 64 (bit true octets) = some (.nat (number octets)) := by
    simp only [unsignedIn,bitsNumber,Nat.mod_eq_of_lt fits]
    exact if_pos fits
  exact (decodeNext rfl).trans (decodeFirst taken)

theorem decimalToJson (octets : Octets) : (decimal octets).toJson = (decimal? octets).getD .null := by
  simp only [toJson,decodeBy,decoders,signedIn,unsignedIn,List.findSome?]
  cases decimal? octets <;> rfl

theorem decimalSome {octets : Octets} {j : Json} : decimal? octets = some j ↔
    ∃ cs d, octets = encode cs ∧ Decimal.Spelled cs d ∧ Decimal.isScale d.scale = true ∧
      .text d.text = j := by
  simp only [← decodeIff,decimal?]
  cases Text.Utf8.decode octets with
  | error fault => simp
  | ok cs =>
    simp only [Option.map_eq_some_iff,Decimal.parseIff,and_assoc,Except.ok.injEq]
    simp

end MySql.Value

namespace Database

inductive HoldsInteger : (engine : Engine) → Cell engine → Int → Prop where
  | int2 (n : Int16) : HoldsInteger .postgres (Postgres.Value.int2 n) n.toInt
  | int4 (n : Int32) : HoldsInteger .postgres (Postgres.Value.int4 n) n.toInt
  | int8 (n : Int64) : HoldsInteger .postgres (Postgres.Value.int8 n) n.toInt
  | signed (n : Int64) : HoldsInteger .mysql (MySql.Value.signed n) n.toInt
  | unsigned (n : UInt64) : HoldsInteger .mysql (MySql.Value.unsigned n) n.toNat
  | bit {octets} (short : octets.length ≤ 8) :
      HoldsInteger .mysql (MySql.Value.bit true octets) (MySql.Value.number octets)
  | integer (i : Int) : HoldsInteger .sqlite (Sqlite.Value.integer i) i

inductive HoldsDecimal : (engine : Engine) → Cell engine → ℚ → Prop where
  | numeric (negative : Bool) (weight : Int16) (groups : List (Fin 10000)) :
      HoldsDecimal .postgres (Postgres.Value.numeric negative weight groups)
        ((if negative then -1 else 1) * Decimal.groupsValue weight.toInt (groups.map Fin.val))
  | decimal {octets cs d} (text : octets = encode cs) (spelled : Decimal.Spelled cs d)
      (scale : Decimal.isScale d.scale = true) :
      HoldsDecimal .mysql (MySql.Value.decimal octets) d.value

theorem integerToJson {engine : Engine} {v : Cell engine} {i : Int} (holds : HoldsInteger engine v i) :
    v.toJson = .int i := by
  cases holds with
  | int2 | int4 | int8 | integer => rfl
  | signed n => exact MySql.Value.signedToJson n
  | unsigned n => exact MySql.Value.unsignedToJson n
  | bit short => exact MySql.Value.bitToJson short

theorem decimalToJson {engine : Engine} {v : Cell engine} {q : ℚ} (holds : HoldsDecimal engine v q) :
    ∃ s, v.toJson = .text s ∧ Decimal.Denotes s.toList q := by
  cases holds with
  | numeric negative weight groups =>
    have denotes := Decimal.textDenotes (.ofGroups negative weight.toInt (groups.map Fin.val))
    rw [Decimal.valueGroups] at denotes
    exact ⟨_,rfl,denotes⟩
  | @decimal octets cs d text spelled scale =>
    have read := MySql.Value.decimalSome.mpr ⟨cs,d,text,spelled,scale,rfl⟩
    refine ⟨d.text,?_,Decimal.textDenotes d⟩
    refine (MySql.Value.decimalToJson octets).trans ?_
    rw [read]
    rfl

structure NumbersKept : Prop where
  integers : ∀ {engine} {cells : Cells (Cell engine)} {name v i}, Last cells name v →
    HoldsInteger engine v i → ∀ j, (name,j) ∈ record Cell.toJson cells ↔ j = .int i
  decimals : ∀ {engine} {cells : Cells (Cell engine)} {name v q}, Last cells name v →
    HoldsDecimal engine v q → ∃ s, (∀ q', Decimal.Denotes s.toList q' ↔ q' = q) ∧
      ∀ j, (name,j) ∈ record Cell.toJson cells ↔ j = .text s
  readable : ∀ {octets}, (∃ q, HoldsDecimal .mysql (MySql.Value.decimal octets) q) ↔
    (MySql.Value.decimal? octets).isSome

theorem numbersKept : NumbersKept := by
  refine ⟨?_,?_,?_⟩
  · intro engine cells name v i last holds j
    rw [recordLast last,integerToJson holds]
  · intro engine cells name v q last holds
    obtain ⟨s,text,denotes⟩ := decimalToJson holds
    refine ⟨s,fun q' => ⟨fun denotes' => Decimal.denotesUnique denotes' denotes,?_⟩,fun j => ?_⟩
    · rintro rfl
      exact denotes
    · rw [recordLast last,text]
  · intro octets
    rw [Option.isSome_iff_exists]
    constructor
    · rintro ⟨_,holds⟩
      cases holds with
      | decimal text spelled scale =>
        exact ⟨_,MySql.Value.decimalSome.mpr ⟨_,_,text,spelled,scale,rfl⟩⟩
    · rintro ⟨j,read⟩
      obtain ⟨cs,d,text,spelled,scale,-⟩ := MySql.Value.decimalSome.mp read
      exact ⟨_,.decimal text spelled scale⟩

theorem greatestAndTenth : ∃ (v : Cell .mysql) (v' : Cell .postgres) (s : String),
    (∀ j, ("n",j) ∈ record Cell.toJson [("n",v)] ↔ j = .int 18446744073709551615) ∧
      (∀ q, Decimal.Denotes s.toList q ↔ q = 1 / 10) ∧
      ∀ j, ("n",j) ∈ record Cell.toJson [("n",v')] ↔ j = .text s := by
  let v : Cell .mysql := MySql.Value.unsigned 18446744073709551615
  let v' : Cell .postgres := Postgres.Value.numeric false (-1) [1000]
  have last : Last [("n",v)] "n" v := ⟨[],[],rfl,List.not_mem_nil⟩
  have last' : Last [("n",v')] "n" v' := ⟨[],[],rfl,List.not_mem_nil⟩
  have integer : HoldsInteger .mysql v 18446744073709551615 := .unsigned 18446744073709551615
  have tenth : HoldsDecimal .postgres v' (1 / 10) := by
    have holds := HoldsDecimal.numeric false (-1) [1000]
    have value : (if false then -1 else 1) * Decimal.groupsValue (-1 : Int16).toInt
        ([(1000 : Fin 10000)].map Fin.val) = 1 / 10 := by
      have weight : (-1 : Int16).toInt = -1 := by decide
      norm_num [Decimal.groupsValue,weight]
    rw [value] at holds
    exact holds
  obtain ⟨s,denotes,holds⟩ := numbersKept.decimals last' tenth
  exact ⟨v,v',s,numbersKept.integers last integer,denotes,holds⟩

end Database
end Querent
