import CountedHandles.Address

/-!
# Packed addresses

An address that fits in six bytes can be kept in six bytes. The largest six-byte pattern is
reserved as a mark, so the largest address below 2⁴⁸ does not fit either.
-/

namespace CountedHandles

/-- An address kept in six bytes, least significant first. -/
structure SixBytes where
  /-- The bytes of the address. -/
  bytes : List UInt8
  /-- There are exactly six of them. -/
  length_bytes : bytes.length = 6
deriving DecidableEq

namespace SixBytes

/-- The pattern that is reserved as a mark. -/
def reserved : Nat := 0xffffffffffff

/-- Keeps the lowest six bytes of a number. -/
def truncate (n : Nat) : SixBytes :=
  ⟨LittleEndian.encode 6 n, LittleEndian.length_encode 6 n⟩

/-- Whether an address can be packed. -/
def Fits (address : Address) : Prop :=
  address.toNat < reserved

instance (address : Address) : Decidable (Fits address) :=
  inferInstanceAs (Decidable (address.toNat < reserved))

/-- Packs an address that fits. -/
def ofAddress? (address : Address) : Option SixBytes :=
  if Fits address then some (truncate address.toNat) else none

/-- The packed null address. -/
def zero : SixBytes := truncate 0

/-- The reserved pattern itself. -/
def mark : SixBytes := truncate reserved

/-- The number that the six bytes stand for. -/
def toNat (packed : SixBytes) : Nat :=
  LittleEndian.decode packed.bytes

/-- The address that was packed. -/
def address (packed : SixBytes) : Address :=
  UInt64.ofNat packed.toNat

/-- The bytes that a hasher is fed: the length as eight bytes, then the six bytes. -/
def hashBytes (packed : SixBytes) : List UInt8 :=
  LittleEndian.encode 8 6 ++ packed.bytes

/-- Six bytes stand for a number below 2⁴⁸. -/
theorem toNat_lt (packed : SixBytes) : packed.toNat < 0x1000000000000 := by
  have h := LittleEndian.decode_lt packed.bytes
  rw [packed.length_bytes] at h
  exact h

/-- A number below 2⁴⁸ is kept whole. -/
theorem toNat_truncate {n : Nat} (h : n < 0x1000000000000) : (truncate n).toNat = n := by
  rw [toNat, truncate, LittleEndian.decode_encode]
  exact Nat.mod_eq_of_lt h

/-- The six bytes are determined by the number that they stand for. -/
theorem toNat_inj {a b : SixBytes} : a.toNat = b.toNat ↔ a = b := by
  refine ⟨fun h => ?_, fun h => h ▸ rfl⟩
  have ha := LittleEndian.encode_decode a.bytes
  have hb := LittleEndian.encode_decode b.bytes
  rw [a.length_bytes] at ha
  rw [b.length_bytes] at hb
  have hbytes : a.bytes = b.bytes := by
    rw [← ha, ← hb]
    exact congrArg _ h
  cases a
  cases b
  cases hbytes
  rfl

/-- Unpacking loses nothing. -/
@[simp] theorem toNat_address (packed : SixBytes) : packed.address.toNat = packed.toNat := by
  have h := packed.toNat_lt
  rw [address, UInt64.toNat_ofNat']
  exact Nat.mod_eq_of_lt (by omega)

/-- Two packed addresses are equal exactly when they unpack to one address. -/
theorem address_inj {a b : SixBytes} : a.address = b.address ↔ a = b := by
  rw [← UInt64.toNat_inj, toNat_address, toNat_address, toNat_inj]

/-- An address that fits is unpacked unchanged. -/
theorem address_truncate {a : Address} (h : Fits a) : (truncate a.toNat).address = a := by
  have hlt : a.toNat < 0x1000000000000 := by
    have hfits : a.toNat < 0xffffffffffff := h
    omega
  rw [← UInt64.toNat_inj, toNat_address, toNat_truncate hlt]

end SixBytes

end CountedHandles
