import CountedHandles.Command
import CountedHandles.Proofs.Occupancy
import CountedHandles.Session

/-!
# Misuse of handles

Three things cannot be done with handles: an address that has no room in a packed slot cannot be put
there, a pointer that leads nowhere cannot be made a reference, and a deleted bucket cannot be
deleted again. This file tells from a session and a command whether the command tries one of these
and with which panic it is answered.
-/

namespace CountedHandles

/-- The panic that answers an attempt to put an address in a slot of some scheme. -/
def Place.misuse? (scheme : Scheme) : Place → Option Panic
  | .address given =>
    if scheme = .packed ∧ SixBytes.reserved ≤ given.toNat then some (.doesNotFit given) else none
  | .referent _ => none

/-- The panic that answers an attempt to make a reference of a pointer. -/
def Handle.releaseMisuse? (handle : Handle) : Option Panic :=
  if handle.form = .pointer ∧ (handle.slot.isNull = true ∨ handle.slot.isDeleted = true) then
    some .releasedNull
  else none

/-- The panic that answers an attempt to delete a bucket. -/
def Handle.deletionMisuse? (handle : Handle) : Option Panic :=
  if handle.form = .pointer ∧ handle.slot.isDeleted = true then some .bucketDeleted else none

/-- The panic that answers a command which misuses a handle. -/
def Session.misuse? (session : Session) : Command → Option Panic
  | .onHandle (.holdAddress _ _ scheme place) => place.misuse? scheme
  | .onHandle (.toReference _ source) => (session.handle? source).bind Handle.releaseMisuse?
  | .change (.pointAtAddress name place) =>
    (session.handle? name).bind fun handle => place.misuse? handle.scheme
  | .change (.vacateBucket name) => (session.handle? name).bind Handle.deletionMisuse?
  | .change (.replaceBucket name) => (session.handle? name).bind Handle.deletionMisuse?
  | _ => none

variable {scheme : Scheme} {address : Address} {cause : Panic}

/-- Exactly the addresses from the reserved pattern on have no room in a packed slot. -/
theorem Slot.ofAddress_eq_error_iff :
    ofAddress scheme address = .error cause ↔
      scheme = .packed ∧ SixBytes.reserved ≤ address.toNat ∧ cause = .doesNotFit address := by
  cases scheme with
  | raw => simp [ofAddress]
  | packed =>
    by_cases hfits : address.toNat < SixBytes.reserved
    · have hnot : ¬ SixBytes.reserved ≤ address.toNat := Nat.not_le.mpr hfits
      simp [ofAddress, SixBytes.ofAddress?, SixBytes.Fits, hfits, hnot]
    · have hlarge : SixBytes.reserved ≤ address.toNat := Nat.not_lt.mp hfits
      simp [ofAddress, SixBytes.ofAddress?, SixBytes.Fits, hfits, hlarge, eq_comm]

/-- A place is answered with a panic exactly if it is an address that has no room in a slot. -/
theorem Place.misuse?_eq_some_iff {place : Place} :
    place.misuse? scheme = some cause ↔
      ∃ address, place = .address address ∧ Slot.ofAddress scheme address = .error cause := by
  cases place with
  | referent name => simp [misuse?]
  | address given =>
    simp only [misuse?, Option.ite_none_right_eq_some, Option.some.injEq, Place.address.injEq,
      exists_eq_left', Slot.ofAddress_eq_error_iff, and_assoc, @eq_comm _ _ cause]

/-- An address that has no room in a slot is answered with a panic. -/
theorem Place.misuse?_of_error (h : Slot.ofAddress scheme address = .error cause) :
    Place.misuse? scheme (.address address) = some cause :=
  misuse?_eq_some_iff.mpr ⟨address, rfl, h⟩

end CountedHandles
