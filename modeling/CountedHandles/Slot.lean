import CountedHandles.Address.SixBytes
import CountedHandles.Panic
import CountedHandles.Text.Padding

/-!
# Slots

A slot is what a handle keeps: an address, either whole or packed in six bytes. Either way the
slot can hold null, and the largest value that it can hold is set aside as the mark of a deleted
bucket. A raw slot accepts every address and so its own mark as well; a packed slot refuses
whatever does not fit.
-/

namespace CountedHandles

/-- The two ways to keep an address. -/
inductive Scheme where
  /-- The whole address. -/
  | raw
  /-- Six bytes. -/
  | packed
deriving DecidableEq

/-- An address as it is kept. -/
inductive Slot where
  | raw (address : Address)
  | packed (address : SixBytes)
deriving DecidableEq

namespace Slot

/-- The way in which a slot keeps its address. -/
def scheme : Slot → Scheme
  | .raw _ => .raw
  | .packed _ => .packed

/-- The address that a slot holds. -/
def address : Slot → Address
  | .raw address => address
  | .packed address => address.address

/-- The slot that holds null. -/
def null : Scheme → Slot
  | .raw => .raw Address.null
  | .packed => .packed SixBytes.zero

/-- The mark of a deleted bucket. -/
def deleted : Scheme → Slot
  | .raw => .raw (UInt64.ofNat 0xffffffffffffffff)
  | .packed => .packed SixBytes.mark

/-- A slot that holds a given address, if the scheme has room for it. -/
def ofAddress : Scheme → Address → Except Panic Slot
  | .raw, address => .ok (.raw address)
  | .packed, address =>
    match SixBytes.ofAddress? address with
    | some bytes => .ok (.packed bytes)
    | none => .error (.doesNotFit address)

/-- Whether a slot holds null. -/
def isNull (slot : Slot) : Bool :=
  slot.address == Address.null

/-- Whether a slot holds the mark of a deleted bucket. -/
def isDeleted (slot : Slot) : Bool :=
  slot == deleted slot.scheme

/-- The address of a referent: null and the mark of a deleted bucket lead nowhere. -/
def target? (slot : Slot) : Option Address :=
  if slot.isDeleted || slot.isNull then none else some slot.address

/-- Puts another address in a slot and answers the old one. The address is wrapped before the slot
is touched, so a slot that has no room for it keeps the old one. -/
def exchange (address : Address) : EStateM Panic Slot Address := do
  match ofAddress (← get).scheme address with
  | .error cause => throw cause
  | .ok replacement => modifyGet fun slot => (slot.address, replacement)

/-- The bytes that a slot feeds to a hasher. -/
def hashBytes : Slot → List UInt8
  | .raw address => address.bytes
  | .packed address => address.hashBytes

/-- The text of a slot on one line. -/
def debugText : Slot → String
  | .raw address => address.text
  | .packed address => "PackedAddress(" ++ address.address.text ++ ")"

/-- The text of a slot in which a whole address shows all its digits. -/
def debugTextFull : Slot → String
  | .raw address => address.padded Padding.allDigits
  | .packed address => "PackedAddress(" ++ address.address.text ++ ")"

@[simp] theorem scheme_null (scheme : Scheme) : (null scheme).scheme = scheme := by
  cases scheme <;> rfl

@[simp] theorem scheme_deleted (scheme : Scheme) : (deleted scheme).scheme = scheme := by
  cases scheme <;> rfl

@[simp] theorem isDeleted_deleted (scheme : Scheme) : (deleted scheme).isDeleted = true := by
  simp [isDeleted]

/-- Within one scheme the address determines the slot. -/
theorem address_inj {a b : Slot} (hscheme : a.scheme = b.scheme) :
    a.address = b.address ↔ a = b := by
  cases a <;> cases b <;> simp_all [scheme, address, SixBytes.address_inj]

/-- A slot that was made from an address holds the address that it was given. -/
theorem address_of_ofAddress {scheme : Scheme} {a : Address} {slot : Slot}
    (h : ofAddress scheme a = .ok slot) : slot.address = a := by
  cases scheme with
  | raw =>
    cases h
    rfl
  | packed =>
    by_cases hfits : SixBytes.Fits a
    · simp only [ofAddress, SixBytes.ofAddress?, hfits, if_true] at h
      cases h
      exact SixBytes.address_truncate hfits
    · simp only [ofAddress, SixBytes.ofAddress?, hfits, if_false] at h
      cases h

/-- Making a slot from an address keeps to the scheme. -/
theorem scheme_of_ofAddress {scheme : Scheme} {a : Address} {slot : Slot}
    (h : ofAddress scheme a = .ok slot) : slot.scheme = scheme := by
  cases scheme with
  | raw =>
    cases h
    rfl
  | packed =>
    simp only [ofAddress] at h
    split at h
    · cases h
      rfl
    · cases h

end Slot

end CountedHandles
