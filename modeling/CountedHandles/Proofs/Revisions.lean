import CountedHandles.Proofs.Renumbering

/-!
# Revisions

What handles do to a store can be told entry by entry. For every act, and for the operations that
are made of several acts, this file says how each handle stands afterwards and how many handles hold
an address.
-/

namespace CountedHandles.Store

variable {config : Config} {store after : Store} {a b s : Serial} {first second handle : Handle}
  {form : Form} {slot : Slot} {provenance : Provenance} {address : Address} {scheme : Scheme}
  {referent : Referent}

/-- How a handle that comes is entered depends on what referents are apart from the handles that
hold them. -/
theorem entry?_of_ground
    (h : after.referents.map Referent.bare = store.referents.map Referent.bare) :
    after.census.entry? config slot provenance = store.census.entry? config slot provenance := by
  simp only [Census.entry?, nameAt?_census, nameAt?_of_ground h]

/-- A slot that leads to no referent gives a handle no origin. -/
theorem entry?_of_nameAt? (h : store.nameAt? slot = none) :
    store.census.entry? config slot provenance = none := by
  simp [Census.entry?, h]

/-- A handle that leads to no referent has no origin. -/
theorem origin?_of_nameAt? (hfound : store.handle? s = some handle)
    (h : store.nameAt? handle.slot = none) : store.origin? s = none := by
  rw [origin?, target?_of_handle? hfound, h, Option.bind_none]

/-! ## How many handles hold an address -/

/-- A creation adds one to the handles that hold its address. -/
theorem length_holders_created :
    ((store.created config form slot provenance).holders address).length =
      (store.holders address).length + if slot.address = address then 1 else 0 := by
  rw [created, holders_tell, length_holders_addHandle]

/-- After an exchange as many handles hold an address as before. -/
theorem length_holders_swapped (hnodup : store.serials.Nodup) (ha : store.handle? a = some first)
    (hb : store.handle? b = some second) :
    ((store.swapped config a b).holders address).length = (store.holders address).length := by
  rw [holders, handles_swapped, ← holders, length_holders_exchangeSlots hnodup ha hb]

/-- A release takes one from the handles that hold the address. -/
theorem length_holders_released (hnodup : store.serials.Nodup)
    (hfound : store.handle? s = some handle) :
    ((store.released config s).holders address).length +
      (if handle.address = address then 1 else 0) = (store.holders address).length := by
  rw [released, holders_tell, length_holders_removeHandle hnodup hfound]

/-- A reassignment takes the old value of a handle away. -/
theorem Consistent.length_holders_reassigned (h : store.Consistent config)
    (ha : store.handle? a = some first) (hb : store.handle? b = some second)
    (hform : first.form = second.form) :
    ((store.reassigned config a b).holders address).length +
      (if first.address = address then 1 else 0) = (store.holders address).length := by
  have hfound := (@handle?_swapped config _ _ _ _ _ h.nodup_serials ha hb).2
  rw [reassigned, ← @length_holders_swapped config _ _ _ _ _ _ h.nodup_serials ha hb]
  have hreleased :=
    @length_holders_released config _ _ _ address (h.swapped ha hb hform).nodup_serials hfound
  exact hreleased

/-- A value that is moved out is held by as many handles as before. -/
theorem Consistent.length_holders_movedOut (h : store.Consistent config)
    (hfound : store.handle? s = some handle) (hsite : address ∈ store.sites) :
    ((store.movedOut config handle.scheme s).holders address).length =
      (store.holders address).length := by
  rw [movedOut, length_holders_swapped (h.created_null _).nodup_serials
    (handle?_created_nextSerial h.toWellFormed) (handle?_created hfound), length_holders_created,
    if_neg (h.address_null_ne hsite), Nat.add_zero]

/-! ## How handles stand -/

/-- The serial number that comes next stands for no handle yet. -/
theorem WellFormed.standing?_nextSerial (h : store.WellFormed) :
    store.standing? store.nextSerial = none := by
  rw [standing?, handle?_eq_none_iff.mpr h.nextSerial_notMem, Option.map_none]

/-- A new handle stands as it was created, and all others stand as before. -/
theorem Consistent.standing?_created (h : store.Consistent config)
    (hfresh : ∀ source, provenance ≠ .moved source) :
    (store.created config form slot provenance).standing? s =
      if s = store.nextSerial then
        some ⟨form, slot, store.census.entry? config slot provenance⟩ else store.standing? s := by
  rw [← standing?_census, h.census_created hfresh]
  exact Census.standing?_put

/-- A handle that is released is gone, and all others stand as before. -/
theorem standing?_released :
    (store.released config a).standing? s = if s = a then none else store.standing? s := by
  rw [← standing?_census, census_released, Census.standing?_put, standing?_census]

/-- How a handle stands that exchanges its content for that of another handle: its origin stays
unless it comes to another referent. -/
def givenBy (config : Config) (store : Store) (handle source : Handle) : Standing :=
  ⟨handle.form, source.slot,
    if store.nameAt? source.slot = store.nameAt? handle.slot then store.origin? handle.serial
    else store.census.entry? config source.slot (.moved source.serial)⟩

/-- Two handles that exchange their contents stand with each other's, and all others stand as
before. -/
theorem Consistent.standing?_swapped (h : store.Consistent config)
    (ha : store.handle? a = some first) (hb : store.handle? b = some second) :
    (store.swapped config a b).standing? s =
      if s = b then some (store.givenBy config second first)
      else if s = a then some (store.givenBy config first second) else store.standing? s := by
  obtain rfl := serial_of_handle? ha
  obtain rfl := serial_of_handle? hb
  rw [← standing?_census, h.census_swapped ha hb,
    Census.exchange_of_standing? (standing?_of_handle? ha) (standing?_of_handle? hb)]
  simp only [Census.standing?_put, Census.given, nameAt?_census, standing?_census, givenBy]

/-- A handle that is reassigned stands with the content of the temporary one, which is gone, and all
others stand as before. -/
theorem Consistent.standing?_reassigned (h : store.Consistent config)
    (ha : store.handle? a = some first) (hb : store.handle? b = some second) :
    (store.reassigned config a b).standing? s =
      if s = b then none
      else if s = a then some (store.givenBy config first second) else store.standing? s := by
  rw [reassigned, standing?_released, h.standing?_swapped ha hb]
  split
  · rfl
  · rfl

/-- A pointer whose value is moved out is empty, the new one stands with the value as it has come
from there, and all others stand as before. -/
theorem Consistent.standing?_movedOut (h : store.Consistent config)
    (hfound : store.handle? a = some handle) :
    (store.movedOut config handle.scheme a).standing? s =
      if s = a then some ⟨handle.form, Slot.null handle.scheme, none⟩
      else if s = store.nextSerial then
        some ⟨.pointer, handle.slot, store.census.entry? config handle.slot (.moved a)⟩
      else store.standing? s := by
  obtain rfl := serial_of_handle? hfound
  have hground : (store.created config .pointer (Slot.null handle.scheme)
      .created).referents.map Referent.bare = store.referents.map Referent.bare := ground_tell
  have hcreated := @handle?_created_nextSerial config _ .pointer (Slot.null handle.scheme) .created
    h.toWellFormed
  rw [movedOut, (h.created_null _).standing?_swapped hcreated (handle?_created hfound),
    h.standing?_created (by simp)]
  by_cases hsource : s = handle.serial
  · rw [if_pos hsource, if_pos hsource, givenBy]
    simp only [nextHandle, nameAt?_of_ground hground, entry?_of_ground hground, nameAt?_null,
      entry?_of_nameAt? nameAt?_null, Option.some.injEq, Standing.mk.injEq, true_and,
      ite_eq_right_iff]
    intro hvacant
    exact origin?_of_nameAt? (handle?_created hfound)
      ((nameAt?_of_ground hground).trans hvacant.symm)
  · simp only [if_neg hsource]
    split
    · rename_i hnew
      rw [givenBy]
      simp only [nextHandle, nameAt?_of_ground hground, entry?_of_ground hground, nameAt?_null,
        Option.some.injEq, Standing.mk.injEq, true_and]
      split
      · rename_i hvacant
        rw [entry?_of_nameAt? hvacant]
        exact origin?_of_nameAt? hcreated nameAt?_null
      · rfl
    · rfl

end CountedHandles.Store
