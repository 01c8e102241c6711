import CountedHandles.Proofs.Occupancy
import CountedHandles.Store
import Mathlib.Data.List.Nodup

/-!
# Who holds what

The handles of a store are told apart by their serial numbers. For each elementary change of the
handles this file says which handle holds which address afterwards and how many hold it.
-/

namespace CountedHandles

/-- In a list without repeated keys a key finds exactly the member that bears it. -/
theorem find?_key_eq_some_iff [DecidableEq κ] {key : α → κ} {members : List α} {k : κ} {x : α}
    (hnodup : (members.map key).Nodup) :
    (members.find? fun member => key member == k) = some x ↔ x ∈ members ∧ key x = k := by
  induction members with
  | nil => simp
  | cons head rest ih =>
    rw [List.map_cons, List.nodup_cons] at hnodup
    have hfresh : ∀ member ∈ rest, key member ≠ key head := fun member hmember heq =>
      hnodup.1 (heq ▸ List.mem_map_of_mem hmember)
    by_cases hhead : key head = k
    · have hrest : ∀ member ∈ rest, key member ≠ k := fun member hmember =>
        hhead ▸ hfresh member hmember
      simp only [List.find?_cons, hhead, beq_self_eq_true, Option.some.injEq, List.mem_cons]
      constructor
      · rintro rfl
        exact ⟨Or.inl rfl, hhead⟩
      · rintro ⟨rfl | hx, hkey⟩
        · rfl
        · exact absurd hkey (hrest x hx)
    · have hne : (key head == k) = false := by simpa using hhead
      simp only [List.find?_cons, hne, ih hnodup.2, List.mem_cons]
      constructor
      · rintro ⟨hx, hkey⟩
        exact ⟨Or.inr hx, hkey⟩
      · rintro ⟨rfl | hx, hkey⟩
        · exact absurd hkey hhead
        · exact ⟨hx, hkey⟩

/-- A change that keeps all keys is found where the member was that it changes. -/
theorem find?_key_map [BEq κ] {key : α → κ} {change : α → α} {members : List α} {k : κ}
    (h : ∀ member, key (change member) = key member) :
    ((members.map change).find? fun member => key member == k) =
      (members.find? fun member => key member == k).map change := by
  have hkey : ((fun member => key member == k) ∘ change) = fun member => key member == k := by
    funext member
    rw [Function.comp_apply, h]
  rw [List.find?_map, hkey]

/-- A change that keeps all keys leaves the keys as they were. -/
theorem map_key_map {key : α → κ} {change : α → α} {members : List α}
    (h : ∀ member, key (change member) = key member) :
    (members.map change).map key = members.map key := by
  rw [List.map_map]
  exact List.map_congr_left fun member _ => h member

namespace Store

variable {store : Store} {a b s : Serial} {first second handle : Handle} {form : Form} {slot : Slot}
  {address : Address}

/-- The serial numbers of all handles that exist. -/
def serials (store : Store) : List Serial :=
  store.handles.map Handle.serial

/-- Some handle with a given serial number holds a given address. -/
def Holds (store : Store) (serial : Serial) (address : Address) : Prop :=
  ∃ handle ∈ store.handles, handle.serial = serial ∧ handle.address = address

/-- A serial number finds exactly the handle that bears it. -/
theorem handle?_eq_some_iff (hnodup : store.serials.Nodup) :
    store.handle? s = some handle ↔ handle ∈ store.handles ∧ handle.serial = s :=
  find?_key_eq_some_iff hnodup

/-- A handle that is found exists. -/
theorem mem_of_handle? (h : store.handle? s = some handle) : handle ∈ store.handles :=
  List.mem_of_find?_eq_some h

/-- A handle that is found bears the serial number that was looked for. -/
theorem serial_of_handle? (h : store.handle? s = some handle) : handle.serial = s := by
  simpa using List.find?_some h

/-- A serial number under which a handle is found is the serial number of one. -/
theorem mem_serials_of_handle? (h : store.handle? s = some handle) : s ∈ store.serials :=
  serial_of_handle? h ▸ List.mem_map_of_mem (mem_of_handle? h)

/-- A handle that exists is found under its own serial number. -/
theorem handle?_of_mem (hnodup : store.serials.Nodup) (h : handle ∈ store.handles) :
    store.handle? handle.serial = some handle :=
  (handle?_eq_some_iff hnodup).mpr ⟨h, rfl⟩

/-- Only serial numbers of handles that exist are found. -/
theorem handle?_eq_none_iff : store.handle? s = none ↔ s ∉ store.serials := by
  simp [handle?, serials]

/-- A handle that is found holds its address. -/
theorem holds_iff_of_handle? (hnodup : store.serials.Nodup) (h : store.handle? s = some handle) :
    store.Holds s address ↔ handle.address = address := by
  constructor
  · rintro ⟨other, hother, rfl, haddress⟩
    rw [handle?_of_mem hnodup hother] at h
    exact Option.some.inj h ▸ haddress
  · exact fun haddress => ⟨handle, mem_of_handle? h, serial_of_handle? h, haddress⟩

/-- The handle with a given serial number is the only one in the list that bears it. -/
theorem exists_split (hnodup : store.serials.Nodup) (h : store.handle? s = some handle) :
    ∃ before after, store.handles = before ++ handle :: after ∧
      ∀ other ∈ before ++ after, other.serial ≠ s := by
  obtain ⟨before, after, hsplit⟩ := List.append_of_mem (mem_of_handle? h)
  refine ⟨before, after, hsplit, fun other hother heq => ?_⟩
  have hserial := serial_of_handle? h
  rw [serials, hsplit, List.map_append, List.map_cons, List.nodup_middle, ← List.map_append,
    List.nodup_cons] at hnodup
  exact hnodup.1 (hserial ▸ heq ▸ List.mem_map_of_mem hother)

/-! ## A new handle -/

@[simp] theorem handles_addHandle :
    (store.addHandle form slot).handles = store.handles ++ [store.nextHandle form slot] := rfl

@[simp] theorem nextSerial_addHandle :
    (store.addHandle form slot).nextSerial = store.nextSerial + 1 := rfl

@[simp] theorem referents_addHandle : (store.addHandle form slot).referents = store.referents := rfl

/-- A new handle comes with the next serial number. -/
@[simp] theorem serials_addHandle :
    (store.addHandle form slot).serials = store.serials ++ [store.nextSerial] := by
  simp [serials, nextHandle]

/-- A new handle holds what it was made with, and all others what they held before. -/
theorem holds_addHandle :
    (store.addHandle form slot).Holds s address ↔
      store.Holds s address ∨ s = store.nextSerial ∧ slot.address = address := by
  simp [Holds, or_and_right, exists_or, nextHandle, Handle.address, eq_comm]

/-- A new handle adds one to the holders of its address. -/
theorem length_holders_addHandle :
    ((store.addHandle form slot).holders address).length =
      (store.holders address).length + if slot.address = address then 1 else 0 := by
  by_cases h : slot.address = address <;> simp [holders, nextHandle, Handle.address, h]

/-- A handle that was there before is found among more handles. -/
theorem handle?_addHandle_of_some (h : store.handle? s = some handle) :
    (store.addHandle form slot).handle? s = some handle := by
  rw [handle?, handles_addHandle, List.find?_append, ← handle?, h]
  rfl

/-- A new handle is found under its serial number. -/
theorem handle?_addHandle_nextSerial (hfresh : store.nextSerial ∉ store.serials) :
    (store.addHandle form slot).handle? store.nextSerial = some (store.nextHandle form slot) := by
  rw [handle?, handles_addHandle, List.find?_append, ← handle?, handle?_eq_none_iff.mpr hfresh]
  simp [nextHandle]

/-! ## Another content -/

@[simp] theorem nextSerial_setSlot : (store.setSlot s slot).nextSerial = store.nextSerial := rfl

@[simp] theorem referents_setSlot : (store.setSlot s slot).referents = store.referents := rfl

/-- A handle with another content keeps its serial number. -/
@[simp] theorem serials_setSlot : (store.setSlot s slot).serials = store.serials := by
  apply map_key_map
  intro handle
  split <;> rfl

/-- Only the handle with the given serial number gets another content. -/
theorem mem_setSlot :
    handle ∈ (store.setSlot s slot).handles ↔
      (handle ∈ store.handles ∧ handle.serial ≠ s) ∨
        ∃ old ∈ store.handles, old.serial = s ∧ handle = { old with slot := slot } := by
  simp only [setSlot, List.mem_map]
  constructor
  · rintro ⟨old, hold, rfl⟩
    by_cases hs : old.serial = s
    · exact Or.inr ⟨old, hold, hs, by simp [hs]⟩
    · exact Or.inl (by simp [hs, hold])
  · rintro (⟨hmem, hs⟩ | ⟨old, hold, hs, rfl⟩)
    · exact ⟨handle, hmem, by simp [hs]⟩
    · exact ⟨old, hold, by simp [hs]⟩

/-- A content that is put in a handle is found there. -/
theorem handle?_setSlot (hnodup : store.serials.Nodup) (h : store.handle? b = some handle) :
    (store.setSlot a slot).handle? b =
      some (if b = a then { handle with slot := slot } else handle) := by
  obtain rfl := serial_of_handle? h
  rw [handle?_eq_some_iff (by simpa using hnodup), mem_setSlot]
  by_cases hba : handle.serial = a
  · rw [if_pos hba]
    exact ⟨Or.inr ⟨handle, mem_of_handle? h, hba, rfl⟩, rfl⟩
  · rw [if_neg hba]
    exact ⟨Or.inl ⟨mem_of_handle? h, hba⟩, rfl⟩

/-- A handle holds the content that is put in it, and all others hold what they held before. -/
theorem holds_setSlot (h : store.handle? a = some handle) :
    (store.setSlot a slot).Holds s address ↔
      if s = a then slot.address = address else store.Holds s address := by
  simp only [Holds, mem_setSlot]
  by_cases hs : s = a
  · subst hs
    rw [if_pos rfl]
    constructor
    · rintro ⟨other, ⟨-, hne⟩ | ⟨old, -, -, rfl⟩, hserial, haddress⟩
      · exact absurd hserial hne
      · exact haddress
    · intro haddress
      have hserial := serial_of_handle? h
      exact ⟨{ handle with slot := slot },
        Or.inr ⟨handle, mem_of_handle? h, hserial, rfl⟩, hserial, haddress⟩
  · rw [if_neg hs]
    constructor
    · rintro ⟨other, ⟨hmem, -⟩ | ⟨old, -, hold, rfl⟩, hserial, haddress⟩
      · exact ⟨other, hmem, hserial, haddress⟩
      · exact absurd (hserial.symm.trans hold) hs
    · rintro ⟨other, hmem, rfl, haddress⟩
      exact ⟨other, Or.inl ⟨hmem, hs⟩, rfl, haddress⟩

/-- Another content moves one holder from the old address to the new one. -/
theorem length_holders_setSlot (hnodup : store.serials.Nodup) (h : store.handle? s = some handle) :
    ((store.setSlot s slot).holders address).length + (if handle.address = address then 1 else 0) =
      (store.holders address).length + if slot.address = address then 1 else 0 := by
  obtain ⟨before, after, hsplit, hothers⟩ := exists_split hnodup h
  have hkeep : ∀ part ⊆ before ++ after, (part.map fun handle =>
      if handle.serial == s then { handle with slot := slot } else handle) = part := by
    intro part hpart
    rw [List.map_congr_left, List.map_id]
    intro other hother
    simp [hothers other (hpart hother)]
  have hset : (store.setSlot s slot).handles = before ++ { handle with slot := slot } :: after := by
    simp only [setSlot, hsplit, List.map_append, List.map_cons, serial_of_handle? h]
    rw [hkeep before (List.subset_append_left _ _), hkeep after (List.subset_append_right _ _)]
    simp
  have haddress : ({ handle with slot := slot } : Handle).address = slot.address := rfl
  rw [holders, holders, hset, hsplit]
  simp only [List.filter_append, List.filter_cons, haddress, beq_iff_eq]
  split <;> split <;> simp <;> omega

/-! ## Exchanged contents -/

/-- Two handles that exist get each other's content. -/
theorem exchangeSlots_eq (ha : store.handle? a = some first) (hb : store.handle? b = some second) :
    store.exchangeSlots a b = (store.setSlot a second.slot).setSlot b first.slot := by
  simp [exchangeSlots, ha, hb]

@[simp] theorem nextSerial_exchangeSlots :
    (store.exchangeSlots a b).nextSerial = store.nextSerial := by
  unfold exchangeSlots
  split <;> rfl

@[simp] theorem referents_exchangeSlots :
    (store.exchangeSlots a b).referents = store.referents := by
  unfold exchangeSlots
  split <;> rfl

@[simp] theorem events_exchangeSlots : (store.exchangeSlots a b).events = store.events := by
  unfold exchangeSlots
  split <;> rfl

/-- Handles that exchange their contents keep their serial numbers. -/
@[simp] theorem serials_exchangeSlots : (store.exchangeSlots a b).serials = store.serials := by
  unfold exchangeSlots
  split <;> simp

/-- After an exchange each of the two handles has the content of the other. -/
theorem handle?_exchangeSlots (hnodup : store.serials.Nodup) (ha : store.handle? a = some first)
    (hb : store.handle? b = some second) :
    (store.exchangeSlots a b).handle? a = some { first with slot := second.slot } ∧
      (store.exchangeSlots a b).handle? b = some { second with slot := first.slot } := by
  have hset : (store.setSlot a second.slot).serials.Nodup := by simpa using hnodup
  have hfirst := (exchangeSlots_eq ha hb).symm ▸
    @handle?_setSlot _ b a _ first.slot hset (handle?_setSlot hnodup ha)
  have hsecond := (exchangeSlots_eq ha hb).symm ▸
    @handle?_setSlot _ b b _ first.slot hset (handle?_setSlot hnodup hb)
  by_cases hab : a = b
  · subst hab
    obtain rfl : first = second := Option.some.inj (ha.symm.trans hb)
    simpa using hfirst
  · exact ⟨by simpa [hab] using hfirst, by simpa [Ne.symm hab] using hsecond⟩

/-- An exchange between two handles leaves every other handle as it was. -/
theorem handle?_exchangeSlots_of_ne (hnodup : store.serials.Nodup)
    (ha : store.handle? a = some first) (hb : store.handle? b = some second)
    (hs : store.handle? s = some handle) (hsa : s ≠ a) (hsb : s ≠ b) :
    (store.exchangeSlots a b).handle? s = some handle := by
  have hset : (store.setSlot a second.slot).serials.Nodup := by simpa using hnodup
  have hfound : (store.setSlot a second.slot).handle? s = some handle := by
    simpa [hsa] using @handle?_setSlot _ a s _ second.slot hnodup hs
  rw [exchangeSlots_eq ha hb]
  simpa [hsb] using @handle?_setSlot _ b s _ first.slot hset hfound

/-- After an exchange each of the two handles holds what the other held. -/
theorem holds_exchangeSlots (hnodup : store.serials.Nodup) (ha : store.handle? a = some first)
    (hb : store.handle? b = some second) :
    (store.exchangeSlots a b).Holds s address ↔
      if s = b then first.address = address else
        if s = a then second.address = address else store.Holds s address := by
  rw [exchangeSlots_eq ha hb, holds_setSlot (handle?_setSlot hnodup hb), holds_setSlot ha]
  rfl

/-- An exchange does not change how many handles hold an address. -/
theorem length_holders_exchangeSlots (hnodup : store.serials.Nodup)
    (ha : store.handle? a = some first) (hb : store.handle? b = some second) :
    ((store.exchangeSlots a b).holders address).length = (store.holders address).length := by
  have hset : (store.setSlot a second.slot).serials.Nodup := by simpa using hnodup
  have hcontent : (if b = a then { second with slot := second.slot } else second : Handle) =
      second := by split <;> rfl
  have hfirst : ((store.setSlot a second.slot).holders address).length +
      (if first.address = address then 1 else 0) =
        (store.holders address).length + if second.address = address then 1 else 0 :=
    length_holders_setSlot hnodup ha
  have hsecond : (((store.setSlot a second.slot).setSlot b first.slot).holders address).length +
      (if second.address = address then 1 else 0) =
        ((store.setSlot a second.slot).holders address).length +
          if first.address = address then 1 else 0 :=
    length_holders_setSlot hset ((handle?_setSlot hnodup hb).trans (congrArg some hcontent))
  rw [exchangeSlots_eq ha hb]
  omega

/-! ## A handle that goes away -/

@[simp] theorem nextSerial_removeHandle :
    (store.removeHandle s).nextSerial = store.nextSerial := rfl

@[simp] theorem referents_removeHandle : (store.removeHandle s).referents = store.referents := rfl

/-- A handle that goes away leaves the other serial numbers. -/
@[simp] theorem serials_removeHandle :
    (store.removeHandle s).serials = store.serials.filter fun serial => serial != s := by
  simp [serials, removeHandle, List.filter_map, Function.comp_def]

/-- A handle is found when another one has been taken out. -/
theorem handle?_removeHandle (hne : s ≠ a) :
    (store.removeHandle a).handle? s = store.handle? s := by
  rw [handle?, removeHandle, List.find?_filter, handle?]
  congr 1
  funext handle
  by_cases hserial : handle.serial = s
  · simp [hserial, hne]
  · simp [hserial]

/-- A handle that goes away holds nothing, and all others hold what they held before. -/
theorem holds_removeHandle :
    (store.removeHandle a).Holds s address ↔ store.Holds s address ∧ s ≠ a := by
  simp only [Holds, removeHandle, List.mem_filter, bne_iff_ne]
  constructor
  · rintro ⟨handle, ⟨hmem, hne⟩, rfl, haddress⟩
    exact ⟨⟨handle, hmem, rfl, haddress⟩, hne⟩
  · rintro ⟨⟨handle, hmem, rfl, haddress⟩, hne⟩
    exact ⟨handle, ⟨hmem, hne⟩, rfl, haddress⟩

/-- A handle that goes away leaves one holder less at its address. -/
theorem length_holders_removeHandle (hnodup : store.serials.Nodup)
    (h : store.handle? s = some handle) :
    ((store.removeHandle s).holders address).length + (if handle.address = address then 1 else 0) =
      (store.holders address).length := by
  obtain ⟨before, after, hsplit, hothers⟩ := exists_split hnodup h
  have hremove : (store.removeHandle s).handles = before ++ after := by
    have hkeep : (before ++ after).filter (fun handle => handle.serial != s) = before ++ after :=
      List.filter_eq_self.mpr fun other hother => by simpa using hothers other hother
    rw [List.filter_append] at hkeep
    simp [removeHandle, hsplit, serial_of_handle? h, hkeep]
  rw [holders, holders, hremove, hsplit]
  simp only [List.filter_append, List.filter_cons, beq_iff_eq]
  split
  · simp
    omega
  · simp

/-- A serial number without a handle has nothing to take out. -/
theorem removeHandle_of_handle?_eq_none (h : store.handle? s = none) :
    store.removeHandle s = store := by
  have hkeep : store.handles.filter (fun handle => handle.serial != s) = store.handles := by
    rw [List.filter_eq_self]
    intro handle hmem
    have hne := List.find?_eq_none.mp h handle hmem
    simpa using hne
  rw [removeHandle, hkeep]

/-! ## Referents -/

/-- A name finds exactly the referent that bears it. -/
theorem referent?_eq_some_iff {name : String} {referent : Referent}
    (hnodup : (store.referents.map Referent.name).Nodup) :
    store.referent? name = some referent ↔ referent ∈ store.referents ∧ referent.name = name :=
  find?_key_eq_some_iff hnodup

/-- An address finds exactly the referent that lies there. -/
theorem referentAt?_eq_some_iff {referent : Referent}
    (hnodup : (store.referents.map Referent.address).Nodup) :
    store.referentAt? address = some referent ↔
      referent ∈ store.referents ∧ referent.address = address :=
  find?_key_eq_some_iff hnodup

/-- Changes of a referent that does not exist have no effect. -/
theorem updateReferent_of_referent?_eq_none {name : String} {change : Referent → Referent}
    (h : store.referent? name = none) : store.updateReferent name change = store := by
  have hkeep : store.referents.map (fun referent =>
      if referent.name == name then change referent else referent) = store.referents := by
    rw [List.map_congr_left, List.map_id]
    intro referent hmem
    have hne : (referent.name == name) = false := by
      simpa using List.find?_eq_none.mp h referent hmem
    simp [hne]
  rw [updateReferent, hkeep]

/-- Only what a change does to the referents with the given name matters. -/
theorem updateReferent_congr {name : String} {f g : Referent → Referent}
    (h : ∀ referent ∈ store.referents, referent.name = name → f referent = g referent) :
    store.updateReferent name f = store.updateReferent name g := by
  have hmap : store.referents.map (fun referent =>
      if referent.name == name then f referent else referent) =
      store.referents.map fun referent =>
        if referent.name == name then g referent else referent := by
    refine List.map_congr_left fun referent hmem => ?_
    by_cases hname : referent.name = name
    · simp [hname, h referent hmem hname]
    · simp [hname]
  rw [updateReferent, hmap, updateReferent]

end Store

end CountedHandles
