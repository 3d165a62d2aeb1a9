import Querent.Binary.Basic

/-! JSON values. An object is its list of members in order; reading never makes two members of one
name, but the type does not forbid it. -/
namespace Querent

inductive Json.Number where
  | integer (i : Int)
  | real (x : Double)
  deriving DecidableEq, Repr

inductive Json where
  | null
  | bool (b : Bool)
  | number (n : Json.Number)
  | text (s : String)
  | array (elements : List Json)
  | object (members : List (String × Json))
  deriving Repr

namespace Json

mutual
def decEq : (x y : Json) → Decidable (x = y)
  | .null, .null => .isTrue rfl
  | .bool a, .bool b => decidable_of_iff (a = b) (by simp)
  | .number a, .number b => decidable_of_iff (a = b) (by simp)
  | .text a, .text b => decidable_of_iff (a = b) (by simp)
  | .array xs, .array ys => have := decEqElements xs ys; decidable_of_iff (xs = ys) (by simp)
  | .object xs, .object ys => have := decEqMembers xs ys; decidable_of_iff (xs = ys) (by simp)
  | .null, .bool _ | .null, .number _ | .null, .text _ | .null, .array _ | .null, .object _
  | .bool _, .null | .bool _, .number _ | .bool _, .text _ | .bool _, .array _ | .bool _, .object _
  | .number _, .null | .number _, .bool _ | .number _, .text _ | .number _, .array _
  | .number _, .object _ | .text _, .null | .text _, .bool _ | .text _, .number _
  | .text _, .array _ | .text _, .object _ | .array _, .null | .array _, .bool _
  | .array _, .number _ | .array _, .text _ | .array _, .object _ | .object _, .null
  | .object _, .bool _ | .object _, .number _ | .object _, .text _ | .object _, .array _ =>
    .isFalse (by simp)

def decEqElements : (xs ys : List Json) → Decidable (xs = ys)
  | [], [] => .isTrue rfl
  | [], _ :: _ => .isFalse (by simp)
  | _ :: _, [] => .isFalse (by simp)
  | x :: xs, y :: ys =>
    have := decEq x y
    have := decEqElements xs ys
    decidable_of_iff (x = y ∧ xs = ys) (by simp)

def decEqMembers : (xs ys : List (String × Json)) → Decidable (xs = ys)
  | [], [] => .isTrue rfl
  | [], _ :: _ => .isFalse (by simp)
  | _ :: _, [] => .isFalse (by simp)
  | (a, x) :: xs, (b, y) :: ys =>
    have := decEq x y
    have := decEqMembers xs ys
    decidable_of_iff ((a = b ∧ x = y) ∧ xs = ys) (by simp)
end

instance : DecidableEq Json := decEq

instance : Inhabited Json := ⟨.null⟩

def int (i : Int) : Json := .number (.integer i)

def nat (n : Nat) : Json := int n

def double (x : Double) : Json := if x.isFinite then .number (.real x) else .null

def setMember (name : String) (value : Json) : List (String × Json) → List (String × Json)
  | [] => [(name,value)]
  | (n, v) :: rest => if n = name then (n,value) :: rest else (n,v) :: setMember name value rest

def settle (members : List (String × Json)) : List (String × Json) :=
  members.foldl (fun done m => setMember m.1 m.2 done) []

def member? (name : String) : Json → Option Json
  | .object members => (members.find? (·.1 == name)).map (·.2)
  | _ => none

def isNull : Json → Bool
  | .null => true
  | _ => false

end Json
end Querent
