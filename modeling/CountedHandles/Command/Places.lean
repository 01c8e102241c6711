import CountedHandles.Command
import CountedHandles.Session

/-!
# Addresses in commands

A command can give an address directly or as the place of a referent. A handle is made from an
address only if it will hold a referent, null or its mark of a deleted bucket, or if the address
does not fit and so panics.
-/

namespace CountedHandles

/-- Whether a handle of some type may be made from an address. -/
def Store.allows (store : Store) (form : Form) (scheme : Scheme) (address : Address) : Bool :=
  (store.referentAt? address).isSome ||
  match scheme, form with
  | .raw, .pointer => address == Address.null || address == (Slot.deleted .raw).address
  | .raw, .reference => false
  | .packed, .pointer => address == Address.null || !decide (SixBytes.Fits address)
  | .packed, .reference => !decide (SixBytes.Fits address)

namespace Turn

/-- The address that is meant. -/
def resolve : Place → Turn Address
  | .address address => pure address
  | .referent name => return (← referent name).address

/-- The address that is meant, if a handle of some type may be made from it. -/
def resolveFor (form : Form) (scheme : Scheme) (place : Place) : Turn Address := do
  let address ← resolve place
  require ((← get).store.allows form scheme address) .dangerous
  return address

end Turn

end CountedHandles
