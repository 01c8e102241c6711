import CountedHandles.Address
import CountedHandles.Serial

/-!
# Panics

A misuse that is detected stops the operation in progress. What it changed before stays changed,
and its message says what went wrong.
-/

namespace CountedHandles

/-- The misuses that stop an operation. -/
inductive Panic where
  /-- An address is too large for a packed slot, or is its reserved mark. -/
  | doesNotFit (address : Address)
  /-- A pointer without a referent was to become a reference. -/
  | releasedNull
  /-- A deleted bucket was to be deleted again. -/
  | bucketDeleted
  /-- A count of zero was to be lowered. -/
  | countUnderflow
  /-- A handle was registered while it was registered already. -/
  | registeredTwice (serial : Serial)
  /-- A handle was to leave a roster that does not list it. -/
  | notRegistered (serial : Serial)
deriving DecidableEq

/-- The wording of each misuse. -/
def Panic.message : Panic → String
  | .doesNotFit address => "address " ++ address.text ++ " does not fit in a packed pointer"
  | .releasedNull => "release_non_null called on a null CheckedPtr"
  | .bucketDeleted => "bucket is already deleted"
  | .countUnderflow => "checked pointer count underflow"
  | .registeredTwice serial => "handle " ++ serial.text ++ " registered twice"
  | .notRegistered serial => "handle " ++ serial.text ++ " was not registered"

end CountedHandles
