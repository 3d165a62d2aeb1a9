/-! Reading octets as text. The reader is a machine that takes one octet at a time: it either is
between characters or owes some continuation octets, the next of which lies in a known range. -/
namespace Querent.Text.Utf8

abbrev Octets := List UInt8

inductive Piece where
  | scalar (c : Char)
  | broken (octets : Nat)
  | cut (octets : Nat)
  deriving DecidableEq, Repr

inductive State where
  | start
  /-- After `seen` octets of a character that hold the bits `bits`, with `owed + 1` more to come;
  the next one lies between `low` and `high`. -/
  | inside (seen owed bits low high : Nat)
  deriving DecidableEq, Repr

def lead (b : Nat) : State ⊕ Piece :=
  if b < 0x80 then .inr (.scalar (Char.ofNat b))
  else if 0xC2 ≤ b && b ≤ 0xDF then .inl (.inside 1 0 (b - 0xC0) 0x80 0xBF)
  else if b = 0xE0 then .inl (.inside 1 1 0 0xA0 0xBF)
  else if b = 0xED then .inl (.inside 1 1 0xD 0x80 0x9F)
  else if 0xE1 ≤ b && b ≤ 0xEF then .inl (.inside 1 1 (b - 0xE0) 0x80 0xBF)
  else if b = 0xF0 then .inl (.inside 1 2 0 0x90 0xBF)
  else if 0xF1 ≤ b && b ≤ 0xF3 then .inl (.inside 1 2 (b - 0xF0) 0x80 0xBF)
  else if b = 0xF4 then .inl (.inside 1 2 4 0x80 0x8F)
  else .inr (.broken 1)

def pieces : State → Octets → List Piece
  | .start, [] => []
  | .inside seen _ _ _ _, [] => [.cut seen]
  | .start, b :: rest => match lead b.toNat with
    | .inl state => pieces state rest
    | .inr piece => piece :: pieces .start rest
  | .inside seen owed bits low high, b :: rest =>
    if low ≤ b.toNat && b.toNat ≤ high then
      let bits := bits * 64 + (b.toNat - 0x80)
      match owed with
      | 0 => .scalar (Char.ofNat bits) :: pieces .start rest
      | owed + 1 => pieces (.inside (seen + 1) owed bits 0x80 0xBF) rest
    else match lead b.toNat with
      | .inl state => .broken seen :: pieces state rest
      | .inr piece => .broken seen :: piece :: pieces .start rest

def replacement : Char := '\ufffd'

def Piece.shown : Piece → Char
  | .scalar c => c
  | .broken _ => replacement
  | .cut _ => replacement

def lossy (octets : Octets) : List Char := (pieces .start octets).map Piece.shown

inductive Fault where
  | broken (index octets : Nat)
  | cut (index : Nat)
  deriving DecidableEq, Repr

def Fault.message : Fault → String
  | .broken index octets => s!"invalid utf-8 sequence of {octets} bytes from index {index}"
  | .cut index => s!"incomplete utf-8 byte sequence from index {index}"

def exactly : Nat → List Piece → Except Fault (List Char)
  | _, [] => .ok []
  | index, .scalar c :: rest => (exactly (index + c.utf8Size) rest).map (c :: ·)
  | index, .broken octets :: _ => .error (.broken index octets)
  | index, .cut _ :: _ => .error (.cut index)

def decode (octets : Octets) : Except Fault (List Char) := exactly 0 (pieces .start octets)

def encode (cs : List Char) : Octets := cs.flatMap String.utf8EncodeChar

example : lossy [0x61, 0xE2, 0x82, 0x62, 0xFF] = ['a', replacement, 'b', replacement] := by decide
example : decode [0x61, 0xC3, 0xA9] = .ok ['a', 'é'] := by rfl
example : decode [0x61, 0xE2, 0x82] = .error (.cut 1) := by rfl

end Querent.Text.Utf8
