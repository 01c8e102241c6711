import CountedHandles.Handle.Text
import CountedHandles.Proofs.Holding
import CountedHandles.Session

/-!
# Packing raw slots

Packing puts a packed slot in place of every raw one and changes nothing else. An address that fits
is kept, and the raw mark of a deleted bucket becomes the packed mark. As long as no raw slot holds
anything else, packed slots are null, deleted, equal and in order where the raw ones are.
-/

namespace CountedHandles

namespace Slot

/-- The packed slot in place of a slot; an address that does not fit becomes the packed mark. -/
def pack : Slot → Slot
  | .raw address => .packed ((SixBytes.ofAddress? address).getD SixBytes.mark)
  | .packed address => .packed address

/-- A raw slot that is the mark of a deleted bucket or holds an address that fits. -/
inductive Packable : Slot → Prop
  | deleted : Packable (Slot.deleted .raw)
  | fits {address : Address} (h : SixBytes.Fits address) : Packable (.raw address)

variable {slot other : Slot} {address : Address}

@[simp] theorem scheme_pack : slot.pack.scheme = .packed := by
  cases slot <;> rfl

@[simp] theorem pack_deleted (scheme : Scheme) : (deleted scheme).pack = deleted .packed := by
  cases scheme <;> rfl

/-- An address that fits is packed as it would be from the start. -/
theorem ofAddress_packed_of_fits (h : SixBytes.Fits address) :
    ofAddress .packed address = .ok (pack (.raw address)) := by
  simp [ofAddress, pack, SixBytes.ofAddress?, h]

/-- Packing cuts addresses off at the packed mark. -/
theorem toNat_address_pack (h : slot.scheme = .raw) :
    slot.pack.address.toNat = min slot.address.toNat SixBytes.reserved := by
  cases slot with
  | packed address => cases h
  | raw address =>
    change (SixBytes.address _).toNat = min address.toNat _
    unfold SixBytes.ofAddress?
    split
    · rename_i hfits
      have hlt : address.toNat < SixBytes.reserved := hfits
      rw [Option.getD_some, SixBytes.address_truncate hfits]
      omega
    · rename_i hfits
      have hle : SixBytes.reserved ≤ address.toNat := Nat.not_lt.mp hfits
      have hmark : SixBytes.mark.address.toNat = SixBytes.reserved := by
        rw [SixBytes.toNat_address]
        exact SixBytes.toNat_truncate (by decide)
      rw [Option.getD_none, hmark]
      omega

/-- The address of the mark of a scheme is the largest that the scheme can hold. -/
theorem toNat_address_deleted (scheme : Scheme) : (deleted scheme).address.toNat =
    match scheme with
    | .raw => 0xffffffffffffffff
    | .packed => SixBytes.reserved := by
  cases scheme <;> decide

namespace Packable

theorem scheme_eq (h : slot.Packable) : slot.scheme = .raw := by
  cases h <;> rfl

/-- The null slot can be packed. -/
theorem null : (Slot.null .raw).Packable :=
  .fits (by decide)

/-- The address of a slot that can be packed is that of the raw mark or below the packed one. -/
theorem toNat_address (h : slot.Packable) :
    slot.address.toNat = 0xffffffffffffffff ∨ slot.address.toNat < SixBytes.reserved := by
  cases h with
  | deleted => exact Or.inl (toNat_address_deleted .raw)
  | fits hfits => exact Or.inr hfits

/-- A packed slot is a deleted bucket where the raw slot is. -/
theorem isDeleted_pack (h : slot.Packable) : slot.pack.isDeleted = slot.isDeleted := by
  have hbounds := h.toNat_address
  have hpack := toNat_address_pack h.scheme_eq
  have hraw := toNat_address_deleted .raw
  have hpacked := toNat_address_deleted .packed
  dsimp only [SixBytes.reserved] at *
  rw [Bool.eq_iff_iff, isDeleted_iff, isDeleted_iff, scheme_pack, h.scheme_eq, ← UInt64.toNat_inj,
    ← UInt64.toNat_inj]
  omega

/-- Packed slots hold one address where the raw ones do. -/
theorem address_pack_inj (h : slot.Packable) (hother : other.Packable) :
    slot.pack.address = other.pack.address ↔ slot.address = other.address := by
  have hbounds := h.toNat_address
  have hbounds' := hother.toNat_address
  rw [← UInt64.toNat_inj, ← UInt64.toNat_inj, toNat_address_pack h.scheme_eq,
    toNat_address_pack hother.scheme_eq]
  dsimp only [SixBytes.reserved] at *
  omega

/-- Packed slots are in order where the raw ones are. -/
theorem address_pack_le (h : slot.Packable) (hother : other.Packable) :
    slot.pack.address ≤ other.pack.address ↔ slot.address ≤ other.address := by
  have hbounds := h.toNat_address
  have hbounds' := hother.toNat_address
  rw [UInt64.le_iff_toNat_le, UInt64.le_iff_toNat_le, toNat_address_pack h.scheme_eq,
    toNat_address_pack hother.scheme_eq]
  dsimp only [SixBytes.reserved] at *
  omega

/-- A packed slot holds an address that fits where the raw slot does. -/
theorem address_pack_eq_iff (h : slot.Packable) (hfits : SixBytes.Fits address) :
    slot.pack.address = address ↔ slot.address = address := by
  have hbounds := h.toNat_address
  have hlt : address.toNat < SixBytes.reserved := hfits
  rw [← UInt64.toNat_inj, ← UInt64.toNat_inj, toNat_address_pack h.scheme_eq]
  dsimp only [SixBytes.reserved] at *
  omega

/-- A packed slot that is no deleted bucket holds what the raw slot holds. -/
theorem address_pack (h : slot.Packable) (hdeleted : slot.isDeleted = false) :
    slot.pack.address = slot.address := by
  cases h with
  | deleted => cases hdeleted
  | fits hfits => exact ((Packable.fits hfits).address_pack_eq_iff hfits).mpr rfl

theorem isNull_pack (h : slot.Packable) : slot.pack.isNull = slot.isNull := by
  rw [Bool.eq_iff_iff, isNull_iff, isNull_iff]
  exact h.address_pack_eq_iff (by decide)

/-- A packed slot leads where the raw slot does. -/
theorem target?_pack (h : slot.Packable) : slot.pack.target? = slot.target? := by
  unfold target?
  rw [h.isDeleted_pack, h.isNull_pack]
  cases hdeleted : slot.isDeleted with
  | true => rfl
  | false => rw [h.address_pack hdeleted]

end Packable

end Slot

namespace Handle

/-- A handle with its slot packed. -/
def pack (handle : Handle) : Handle :=
  { handle with slot := handle.slot.pack }

variable {handle other : Handle}

@[simp] theorem serial_pack : handle.pack.serial = handle.serial := rfl

@[simp] theorem form_pack : handle.pack.form = handle.form := rfl

@[simp] theorem slot_pack : handle.pack.slot = handle.slot.pack := rfl

@[simp] theorem scheme_pack : handle.pack.scheme = .packed := Slot.scheme_pack

/-- Packed handles are equal where the raw ones are. -/
theorem equal_pack (h : handle.slot.Packable) (hother : other.slot.Packable) :
    handle.pack.equal other.pack = handle.equal other := by
  unfold equal
  rw [Bool.eq_iff_iff, beq_iff_eq, beq_iff_eq]
  exact h.address_pack_inj hother

/-- A packed handle that is not deleted holds what the raw handle holds. -/
theorem address_pack (h : handle.slot.Packable) (hdeleted : handle.slot.isDeleted = false) :
    handle.pack.address = handle.address :=
  h.address_pack hdeleted

/-- A packed handle that is not deleted feeds the same bytes to a hasher as the raw handle. -/
theorem hashBytes_pack (h : handle.slot.Packable) (hdeleted : handle.slot.isDeleted = false) :
    handle.pack.hashBytes = handle.hashBytes := by
  rw [hashBytes, address_pack h hdeleted, hashBytes]

/-- A packed handle is printed as deleted where the raw one is. -/
theorem deletedText?_pack (h : handle.slot.Packable) :
    handle.pack.deletedText? = handle.deletedText? := by
  simp only [deletedText?, form_pack, slot_pack, h.isDeleted_pack]

/-- A packed handle that is not deleted is printed like the raw one. -/
theorem text_pack {style : Style} (h : handle.slot.Packable)
    (hdeleted : handle.slot.isDeleted = false) : handle.pack.text style = handle.text style := by
  cases style <;> simp only [text, term, form_pack, deletedText?_pack h, address_pack h hdeleted]

end Handle

namespace Event

/-- An event with all handles packed. -/
def pack : Event → Event
  | .created handle => .created handle.pack
  | .call received handles => .call received (handles.map Handle.pack)
  | .log record => .log record

variable {event : Event} {events : List Event}

/-- Packing changes no call. -/
@[simp] theorem call?_pack : event.pack.call? = event.call? := by
  cases event <;> rfl

/-- Packing changes nothing that events show. -/
@[simp] theorem line?_pack {config : Config} : event.pack.line? config = event.line? config := by
  cases event <;> rfl

end Event

namespace Store

/-- A store with all handles packed. -/
def pack (store : Store) : Store :=
  { store with
    handles := store.handles.map Handle.pack
    events := store.events.map Event.pack }

/-- Every slot of a store can be packed, and so can the addresses of all referents. -/
structure Packable (store : Store) : Prop where
  /-- Every slot is raw and holds what can be packed. -/
  slots : ∀ handle ∈ store.handles, handle.slot.Packable
  /-- Every referent lies where a packed slot can lead. -/
  fits : ∀ referent ∈ store.referents, SixBytes.Fits referent.address

variable {store : Store} {handle : Handle} {s a b : Serial} {form : Form} {slot : Slot}
  {address : Address} {name : String} {event : Event}

@[simp] theorem nextSerial_pack : store.pack.nextSerial = store.nextSerial := rfl

@[simp] theorem referents_pack : store.pack.referents = store.referents := rfl

@[simp] theorem referent?_pack : store.pack.referent? name = store.referent? name := rfl

@[simp] theorem referentAt?_pack : store.pack.referentAt? address = store.referentAt? address :=
  rfl

@[simp] theorem handle?_pack : store.pack.handle? s = (store.handle? s).map Handle.pack :=
  find?_key_map fun _ => rfl

/-! ## Changes of packed stores -/

theorem pack_addEvent : (store.addEvent event).pack = store.pack.addEvent event.pack := by
  simp [pack, addEvent]

theorem pack_addHandle :
    (store.addHandle form slot).pack = store.pack.addHandle form slot.pack := by
  simp [pack, addHandle, nextHandle, Handle.pack, Event.pack]

theorem pack_setSlot : (store.setSlot s slot).pack = store.pack.setSlot s slot.pack := by
  simp only [pack, setSlot, List.map_map, mk.injEq, and_true, true_and]
  exact List.map_congr_left fun handle _ => apply_ite Handle.pack _ _ _

theorem pack_exchangeSlots : (store.exchangeSlots a b).pack = store.pack.exchangeSlots a b := by
  unfold exchangeSlots
  rw [handle?_pack, handle?_pack]
  cases store.handle? a with
  | none => rfl
  | some first =>
    cases store.handle? b with
    | none => rfl
    | some second => simp only [Option.map_some, pack_setSlot, Handle.slot_pack]

theorem pack_removeHandle : (store.removeHandle s).pack = store.pack.removeHandle s := by
  simp only [pack, removeHandle, List.filter_map]
  rfl

/-! ## Stores that can be packed -/

namespace Packable

theorem of_handle? (h : store.Packable) (hfound : store.handle? s = some handle) :
    handle.slot.Packable :=
  h.slots handle (mem_of_handle? hfound)

/-- A packed handle holds the referent that the raw one holds. -/
theorem targetOf?_pack (h : handle.slot.Packable) :
    store.pack.targetOf? handle.pack = store.targetOf? handle := by
  unfold targetOf?
  rw [Handle.slot_pack, h.target?_pack]
  rfl

/-- A packed handle has the target that the raw one has. -/
theorem target?_pack (h : store.Packable) : store.pack.target? s = store.target? s := by
  unfold target?
  rw [handle?_pack]
  cases hfound : store.handle? s with
  | none => rfl
  | some handle => exact congrArg _ (targetOf?_pack (h.of_handle? hfound))

/-- As many packed handles hold an address that fits as raw ones do. -/
theorem length_holders_pack (h : store.Packable) (hfits : SixBytes.Fits address) :
    (store.pack.holders address).length = (store.holders address).length := by
  simp only [holders, pack, List.filter_map, List.length_map]
  congr 1
  refine List.filter_congr fun handle hmem => ?_
  rw [Function.comp_apply, Bool.eq_iff_iff, beq_iff_eq, beq_iff_eq]
  exact (h.slots handle hmem).address_pack_eq_iff hfits

theorem addEvent (h : store.Packable) : (store.addEvent event).Packable := ⟨h.slots, h.fits⟩

theorem addHandle (h : store.Packable) (hslot : slot.Packable) :
    (store.addHandle form slot).Packable := by
  refine ⟨fun handle hmem => ?_, h.fits⟩
  rcases List.mem_append.mp hmem with hold | hnew
  · exact h.slots handle hold
  · rw [List.mem_singleton.mp hnew]
    exact hslot

theorem setSlot (h : store.Packable) (hslot : slot.Packable) : (store.setSlot s slot).Packable := by
  refine ⟨fun handle hmem => ?_, h.fits⟩
  obtain ⟨old, hold, rfl⟩ := List.mem_map.mp hmem
  split
  · exact hslot
  · exact h.slots old hold

theorem exchangeSlots (h : store.Packable) : (store.exchangeSlots a b).Packable := by
  unfold Store.exchangeSlots
  cases ha : store.handle? a with
  | none => exact h
  | some first =>
    cases hb : store.handle? b with
    | none => exact h
    | some second => exact (h.setSlot (h.of_handle? hb)).setSlot (h.of_handle? ha)

theorem removeHandle (h : store.Packable) : (store.removeHandle s).Packable :=
  ⟨fun handle hmem => h.slots handle (List.mem_of_mem_filter hmem), h.fits⟩

theorem updateReferent {change : Referent → Referent} (h : store.Packable)
    (haddress : ∀ referent, (change referent).address = referent.address) :
    (store.updateReferent name change).Packable := by
  refine ⟨h.slots, fun referent hmem => ?_⟩
  obtain ⟨old, hold, rfl⟩ := List.mem_map.mp hmem
  split
  · rw [haddress]
    exact h.fits old hold
  · exact h.fits old hold

theorem addReferent {value : Int64} (h : store.Packable) (hfits : SixBytes.Fits address) :
    (store.addReferent name address value).Packable := by
  refine ⟨h.slots, fun referent hmem => ?_⟩
  rcases List.mem_append.mp hmem with hold | hnew
  · exact h.fits referent hold
  · rw [List.mem_singleton.mp hnew]
    exact hfits

theorem removeReferent (h : store.Packable) : (store.removeReferent name).Packable :=
  ⟨h.slots, fun referent hmem => h.fits referent (List.mem_of_mem_filter hmem)⟩

end Packable

end Store

end CountedHandles
