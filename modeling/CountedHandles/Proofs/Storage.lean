import CountedHandles.Proofs.Misuse

/-!
# What slots keep

A slot that is made from an address holds exactly this address. A packed slot accepts the addresses
below the reserved pattern and is then never the mark of a deleted bucket, while a raw slot accepts
every address and so its own mark as well. Within one scheme the slot, its address and the bytes
that it feeds to a hasher determine each other.
-/

namespace CountedHandles

variable {scheme : Scheme} {address : Address} {slot a b : Slot}

/-- Exactly the addresses below the reserved pattern are packed. -/
theorem SixBytes.isSome_ofAddress?_iff :
    (SixBytes.ofAddress? address).isSome = true ↔ address.toNat < SixBytes.reserved := by
  by_cases hfits : SixBytes.Fits address
  · simp only [SixBytes.ofAddress?, if_pos hfits, Option.isSome_some, true_iff]
    exact hfits
  · simp only [SixBytes.ofAddress?, if_neg hfits, Option.isSome_none, Bool.false_eq_true, false_iff]
    exact hfits

namespace Slot

/-- The slots that are made from an address are those of the scheme that hold it, and there is one
unless a packed slot has no room. -/
theorem ofAddress_eq_ok_iff :
    ofAddress scheme address = .ok slot ↔
      slot.scheme = scheme ∧ slot.address = address ∧
        (scheme = .packed → address.toNat < SixBytes.reserved) := by
  constructor
  · intro h
    refine ⟨scheme_of_ofAddress h, address_of_ofAddress h,
      fun hpacked => Nat.lt_of_not_le fun hlarge => ?_⟩
    have herror := ofAddress_eq_error_iff.mpr ⟨hpacked, hlarge, rfl⟩
    rw [h] at herror
    cases herror
  · rintro ⟨hscheme, haddress, hroom⟩
    cases hmade : ofAddress scheme address with
    | error cause =>
      obtain ⟨hpacked, hlarge, -⟩ := ofAddress_eq_error_iff.mp hmade
      exact absurd (hroom hpacked) (Nat.not_lt.mpr hlarge)
    | ok made =>
      have hsame : made.scheme = slot.scheme := (scheme_of_ofAddress hmade).trans hscheme.symm
      rw [(address_inj hsame).mp ((address_of_ofAddress hmade).trans haddress.symm)]

/-- A packed slot can be made exactly from the addresses below the reserved pattern. -/
theorem exists_ofAddress_packed_iff :
    (∃ slot, ofAddress .packed address = .ok slot) ↔ address.toNat < SixBytes.reserved := by
  constructor
  · rintro ⟨slot, h⟩
    exact (ofAddress_eq_ok_iff.mp h).2.2 rfl
  · intro hfits
    exact ⟨.packed (SixBytes.truncate address.toNat),
      ofAddress_eq_ok_iff.mpr ⟨rfl, SixBytes.address_truncate hfits, fun _ => hfits⟩⟩

/-- A packed slot that is made from an address is not the mark of a deleted bucket. -/
theorem isDeleted_of_ofAddress_packed (h : ofAddress .packed address = .ok slot) :
    slot.isDeleted = false := by
  obtain ⟨hscheme, haddress, hroom⟩ := ofAddress_eq_ok_iff.mp h
  have hmark := reserved_le_address_deleted slot.scheme
  rw [← Bool.not_eq_true, isDeleted_iff]
  intro hdeleted
  rw [← hdeleted, haddress] at hmark
  exact Nat.not_lt.mpr hmark (hroom rfl)

/-- An exchange puts an address that has room in the slot and answers the old one. -/
theorem exchange_of_ok (h : ofAddress a.scheme address = .ok b) :
    exchange address a = .ok a.address b := by
  change EStateM.run (exchange address) a = _
  rw [exchange, EStateM.run_bind, EStateM.run_get]
  simp only [h]
  rfl

/-- An exchange panics with an address that has no room, and leaves the slot as it was. -/
theorem exchange_of_error {cause : Panic} (h : ofAddress a.scheme address = .error cause) :
    exchange address a = .error cause a := by
  change EStateM.run (exchange address) a = _
  rw [exchange, EStateM.run_bind, EStateM.run_get]
  simp only [h]
  rfl

/-- A slot that is made from an address is the null slot exactly if the address is null. -/
theorem eq_null_iff_of_ofAddress (h : ofAddress scheme address = .ok slot) :
    slot = null scheme ↔ address = Address.null := by
  have hscheme : slot.scheme = (null scheme).scheme :=
    (scheme_of_ofAddress h).trans (scheme_null scheme).symm
  rw [← address_inj hscheme, address_null, address_of_ofAddress h]

/-- A raw slot is the mark of a deleted bucket exactly if it holds the largest address. -/
theorem isDeleted_raw_iff :
    (raw address).isDeleted = true ↔ address.toNat = 0xffffffffffffffff := by
  rw [isDeleted_iff, ← UInt64.toNat_inj]
  rfl

/-- Within one scheme the bytes that are fed to a hasher determine the slot. -/
theorem hashBytes_inj (hscheme : a.scheme = b.scheme) : a.hashBytes = b.hashBytes ↔ a = b := by
  refine ⟨fun h => ?_, fun h => h ▸ rfl⟩
  cases a with
  | raw first =>
    cases b with
    | raw second => exact congrArg raw (Address.bytes_inj.mp h)
    | packed second => cases hscheme
  | packed first =>
    cases b with
    | raw second => cases hscheme
    | packed second =>
      have hbytes : first.bytes = second.bytes := List.append_cancel_left h
      exact congrArg packed (SixBytes.toNat_inj.mp (congrArg LittleEndian.decode hbytes))

end Slot

end CountedHandles
