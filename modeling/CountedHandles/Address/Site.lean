import CountedHandles.Address.SixBytes

/-!
# Sites of referents

A referent can lie at every address that differs from null and fits in a packed slot, so no handle
to a referent looks null or deleted. An arena may offer less: referents on the grid lie in three
regions of memory, at whole steps from the start of a region.
-/

namespace CountedHandles.Address

/-- Whether a referent can lie at an address. -/
def isSite (address : Address) : Bool :=
  decide (0 < address.toNat ∧ address.toNat < SixBytes.reserved)

/-- The distance between neighbouring sites on the grid. -/
def siteStep : Nat := 0x400

/-- The size of a region. -/
def regionSize : Nat := 0x100000

/-- Where the regions begin. -/
def regions : List Nat := [0x10000000, 0x100000000, 0x234567890000]

/-- Whether an address lies on the grid. -/
def onGrid (address : Address) : Bool :=
  address.toNat % siteStep == 0 &&
    regions.any fun start =>
      decide (start ≤ address.toNat ∧ address.toNat < start + regionSize)

/-- The site that a referent gets by default, by the number of referents before it. -/
def defaultSite (before : Nat) : Address :=
  UInt64.ofNat (0x100000000 + siteStep * before)

/-- Sites are neither null nor too large for a packed slot. -/
theorem bounds_of_isSite {address : Address} (h : address.isSite = true) :
    0 < address.toNat ∧ address.toNat < SixBytes.reserved :=
  of_decide_eq_true h

end CountedHandles.Address
