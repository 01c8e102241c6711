import CountedHandles.Roster

/-!
# Referents

A referent is an object that handles can hold. It lies at an address, carries a value, owns a list
of handles to other referents, and counts the handles that hold it.
-/

namespace CountedHandles

/-- An object that handles can hold. -/
structure Referent where
  /-- The name that no other referent of the run has. -/
  name : String
  /-- Where it lies. -/
  address : Address
  /-- What it carries. -/
  value : Int64
  /-- The handles that it owns, in order. -/
  links : List Serial := []
  /-- How many handles hold it. -/
  count : Nat := 0
  /-- Which handles hold it, as far as it was told. -/
  roster : Roster := .empty
deriving DecidableEq

end CountedHandles
