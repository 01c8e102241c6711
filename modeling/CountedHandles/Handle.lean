import CountedHandles.Slot

/-!
# Handles

A handle holds the address of a referent in a slot. A pointer may also hold null or be the mark of
a deleted bucket; a reference always holds a referent. Handles are compared and hashed by the
address that they hold, whatever their form and scheme.
-/

namespace CountedHandles

/-- The two forms of a handle. -/
inductive Form where
  /-- May hold nothing. -/
  | pointer
  /-- Always holds a referent. -/
  | reference
deriving DecidableEq

/-- The type name of a form. -/
def Form.text : Form → String
  | .pointer => "CheckedPtr"
  | .reference => "CheckedRef"

/-- A handle with its serial number. -/
structure Handle where
  /-- The number that tells it from all others. -/
  serial : Serial
  /-- Pointer or reference. -/
  form : Form
  /-- What it holds. -/
  slot : Slot
deriving DecidableEq

namespace Handle

/-- The address that a handle holds. -/
def address (handle : Handle) : Address :=
  handle.slot.address

/-- How a handle keeps its address. -/
def scheme (handle : Handle) : Scheme :=
  handle.slot.scheme

/-- Whether two handles are of one type, and so can change their contents. -/
def sameType (a b : Handle) : Bool :=
  a.form == b.form && a.scheme == b.scheme

/-- Whether two handles hold the same address. -/
def equal (a b : Handle) : Bool :=
  a.address == b.address

/-- The bytes that a handle feeds to a hasher. -/
def hashBytes (handle : Handle) : List UInt8 :=
  handle.address.bytes

/-- Handles are equal exactly when they are hashed alike. -/
theorem equal_iff_hashBytes_eq {a b : Handle} :
    a.equal b = true ↔ a.hashBytes = b.hashBytes := by
  simp [equal, hashBytes, Address.bytes_inj]

end Handle

end CountedHandles
