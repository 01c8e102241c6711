import CountedHandles.LittleEndian

/-!
# Addresses

Referents lie at 64-bit addresses, and address zero is null. An address is written in lower-case
hexadecimal after `0x`, without leading zeros, and read with digits of either case.
-/

namespace CountedHandles

/-- A place in memory. -/
abbrev Address := UInt64

namespace Address

/-- The address at which nothing lies. -/
def null : Address := 0

/-- The eight bytes that stand for an address wherever it is hashed. -/
def bytes (address : Address) : List UInt8 :=
  LittleEndian.encode 8 address.toNat

/-- Hexadecimal digits without a mark in front. -/
def digits (address : Address) : List Char :=
  Nat.toDigits 16 address.toNat

/-- The written form of an address. -/
def text (address : Address) : String :=
  String.ofList ('0' :: 'x' :: address.digits)

/-- The value of a hexadecimal digit of either case. -/
def digitValue? (digit : Char) : Option Nat :=
  if '0' ≤ digit ∧ digit ≤ '9' then some (digit.toNat - '0'.toNat)
  else if 'a' ≤ digit ∧ digit ≤ 'f' then some (digit.toNat - 'a'.toNat + 10)
  else if 'A' ≤ digit ∧ digit ≤ 'F' then some (digit.toNat - 'A'.toNat + 10)
  else none

/-- Reads digits on from a value; a character that is no digit spoils the number. -/
def readDigits? (value : Nat) : List Char → Option Nat
  | [] => some value
  | digit :: rest => (digitValue? digit).bind fun d => readDigits? (16 * value + d) rest

/-- Text that opens like an address is never taken for a name. -/
def opensLiteral (text : String) : Bool :=
  match text.toList with
  | '0' :: 'x' :: _ => true
  | _ => false

/-- Reads a written address; it needs a digit and must stay within 64 bits. -/
def ofText? (text : String) : Option Address :=
  match text.toList with
  | '0' :: 'x' :: digit :: rest =>
    (readDigits? 0 (digit :: rest)).bind fun value =>
      if value < 0x10000000000000000 then some (UInt64.ofNat value) else none
  | _ => none

/-- Equal addresses, and only those, are hashed alike. -/
theorem bytes_inj {a b : Address} : a.bytes = b.bytes ↔ a = b := by
  refine ⟨fun h => ?_, fun h => h ▸ rfl⟩
  have hdecode := congrArg LittleEndian.decode h
  have ha : a.toNat < LittleEndian.capacity 8 := a.toNat_lt
  have hb : b.toNat < LittleEndian.capacity 8 := b.toNat_lt
  rw [bytes, bytes, LittleEndian.decode_encode, LittleEndian.decode_encode,
    Nat.mod_eq_of_lt ha, Nat.mod_eq_of_lt hb] at hdecode
  exact UInt64.toNat.inj hdecode

end Address

end CountedHandles
