import CountedHandles.Address.Site
import CountedHandles.Slot

/-!
# Occupied slots

Null and the mark of a deleted bucket lie outside all sites of referents. A slot therefore is either
vacant in one of these two ways or may lead to a referent, and its address alone decides which.
-/

namespace CountedHandles.Slot

/-- The address of a slot tells whether it holds null. -/
theorem isNull_iff {slot : Slot} : slot.isNull = true ↔ slot.address = Address.null := by
  simp [isNull]

/-- The address of a slot tells whether it is the mark of its scheme. -/
theorem isDeleted_iff {slot : Slot} :
    slot.isDeleted = true ↔ slot.address = (deleted slot.scheme).address := by
  rw [address_inj (scheme_deleted slot.scheme).symm]
  simp [isDeleted]

/-- The null slot holds the null address. -/
@[simp] theorem address_null (scheme : Scheme) : (null scheme).address = Address.null := by
  cases scheme <;> decide

/-- The mark of every scheme lies beyond all addresses that can be packed. -/
theorem reserved_le_address_deleted (scheme : Scheme) :
    SixBytes.reserved ≤ (deleted scheme).address.toNat := by
  cases scheme <;> decide

/-- A slot leads nowhere exactly when it is vacant in one of the two ways. -/
theorem target?_eq_none_iff {slot : Slot} :
    slot.target? = none ↔ slot.isNull = true ∨ slot.isDeleted = true := by
  cases hdeleted : slot.isDeleted <;> simp [target?, hdeleted]

/-- A slot that leads somewhere leads to its address. -/
theorem address_of_target? {slot : Slot} {address : Address} (h : slot.target? = some address) :
    slot.address = address := by
  unfold target? at h
  split at h
  · cases h
  · exact Option.some.inj h

/-- A site of a referent is not null. -/
theorem ne_null_of_isSite {address : Address} (h : address.isSite = true) :
    address ≠ Address.null := by
  rintro rfl
  exact absurd (Address.bounds_of_isSite h).1 (by decide)

/-- A site of a referent is not the mark of a scheme. -/
theorem ne_deleted_of_isSite {address : Address} (h : address.isSite = true) (scheme : Scheme) :
    address ≠ (deleted scheme).address := by
  rintro rfl
  have hbelow := (Address.bounds_of_isSite h).2
  have habove := reserved_le_address_deleted scheme
  omega

/-- A slot whose address is a site leads there. -/
theorem target?_of_isSite {slot : Slot} (h : slot.address.isSite = true) :
    slot.target? = some slot.address := by
  have hnull : slot.isNull = false := by
    rw [← Bool.not_eq_true, isNull_iff]
    exact ne_null_of_isSite h
  have hdeleted : slot.isDeleted = false := by
    rw [← Bool.not_eq_true, isDeleted_iff]
    exact ne_deleted_of_isSite h slot.scheme
  simp [target?, hnull, hdeleted]

/-- No slot is vacant in both ways. -/
theorem not_isNull_of_isDeleted {slot : Slot} (h : slot.isDeleted = true) :
    slot.isNull = false := by
  have hmark := reserved_le_address_deleted slot.scheme
  rw [← isDeleted_iff.mp h] at hmark
  rw [← Bool.not_eq_true, isNull_iff]
  intro hnull
  rw [hnull] at hmark
  exact absurd hmark (by decide)

/-- The null slot leads nowhere. -/
@[simp] theorem target?_null (scheme : Scheme) : (null scheme).target? = none :=
  target?_eq_none_iff.mpr (Or.inl (isNull_iff.mpr (address_null scheme)))

/-- The mark of a deleted bucket leads nowhere. -/
@[simp] theorem target?_deleted (scheme : Scheme) : (deleted scheme).target? = none :=
  target?_eq_none_iff.mpr (Or.inr (isDeleted_deleted scheme))

/-- Every scheme has room for a site. -/
theorem exists_ofAddress_of_isSite {address : Address} (h : address.isSite = true)
    (scheme : Scheme) : ∃ slot, ofAddress scheme address = .ok slot := by
  cases scheme with
  | raw => exact ⟨_, rfl⟩
  | packed =>
    have hfits : SixBytes.Fits address := (Address.bounds_of_isSite h).2
    exact ⟨.packed (SixBytes.truncate address.toNat), by
      simp [ofAddress, SixBytes.ofAddress?, hfits]⟩

end CountedHandles.Slot
