import CountedHandles.Handle.Transfer
import CountedHandles.Proofs.Consistency

/-!
# Acts of handles

Whatever handles do is made of a few acts: a handle is created on its referent, two handles exchange
their contents, a handle is released, and a handle changes its form. Each act takes a consistent
store to a consistent store; in between the referents may be behind what the handles hold.
-/

namespace CountedHandles

/-- What a referent is told of a handle that comes to hold it. -/
def Provenance.messages (serial : Serial) : Provenance → List Message
  | .created => [.increment, .notice (.register serial)]
  | .copied source => [.increment, .notice (.copy source serial)]
  | .moved source => [.notice (.move source serial)]

namespace Referent

variable {config : Config} {before after : Store} {referent : Referent} {serial source : Serial}
  {provenance : Provenance}

/-- A referent whose holders do not change goes on to reflect the handles. -/
theorem Reflects.congr (h : referent.Reflects config before)
    (hcount : (after.holders referent.address).length =
      (before.holders referent.address).length)
    (hholds : ∀ serial, after.Holds serial referent.address ↔
      before.Holds serial referent.address) :
    referent.Reflects config after where
  count_eq := h.count_eq.trans hcount.symm
  contains_iff := fun serial => by rw [h.contains_iff, hholds]

/-- A referent counts a handle that is new to it and lists it. -/
theorem receiveAll_messages (h : ∀ source, provenance ≠ .moved source) :
    referent.receiveAll config (provenance.messages serial) =
      { referent with
        count := referent.count + 1
        roster := if config.listsHolders then referent.roster.insert serial provenance
          else referent.roster } := by
  cases provenance with
  | created =>
    cases hlists : config.listsHolders <;>
      simp [Provenance.messages, receive, hlists, Roster.after]
  | copied source =>
    cases hlists : config.listsHolders <;>
      simp [Provenance.messages, receive, hlists, Roster.after]
  | moved source => exact absurd rfl (h source)

/-- A referent that is told of a new holder reflects the handles with it. -/
theorem Reflects.join (h : referent.Reflects config before)
    (hprovenance : ∀ source, provenance ≠ .moved source)
    (hcount : (after.holders referent.address).length =
      (before.holders referent.address).length + 1)
    (hholds : ∀ other, after.Holds other referent.address ↔
      other = serial ∨ before.Holds other referent.address) :
    (referent.receiveAll config (provenance.messages serial)).Reflects config after := by
  rw [receiveAll_messages hprovenance]
  constructor
  · exact (congrArg (· + 1) h.count_eq).trans hcount.symm
  · intro other
    cases hlists : config.listsHolders <;> simp [h.contains_iff, hholds, hlists]

/-- A referent neither counts nor misses a handle that takes the place of another. -/
theorem receiveAll_move :
    referent.receiveAll config [.notice (.move source serial)] =
      { referent with
        roster := if config.listsHolders
          then (referent.roster.erase source).insert serial (.moved source)
          else referent.roster } := by
  cases hlists : config.listsHolders <;> simp [receive, hlists, Roster.after]

/-- A referent that is told of a change of holders reflects the handles after it. -/
theorem Reflects.move (h : referent.Reflects config before)
    (hcount : (after.holders referent.address).length =
      (before.holders referent.address).length)
    (hholds : ∀ other, after.Holds other referent.address ↔
      other = serial ∨ before.Holds other referent.address ∧ other ≠ source) :
    (referent.receiveAll config [.notice (.move source serial)]).Reflects config after := by
  rw [receiveAll_move]
  constructor
  · exact h.count_eq.trans hcount.symm
  · intro other
    cases hlists : config.listsHolders <;>
      simp [h.contains_iff, hholds, hlists, and_comm]

/-- A referent strikes out a handle that goes away and counts it no more. -/
theorem receiveAll_leave :
    referent.receiveAll config [.notice (.unregister serial), .decrement] =
      { referent with
        count := referent.count - 1
        roster := if config.listsHolders then referent.roster.erase serial
          else referent.roster } := by
  cases hlists : config.listsHolders <;> simp [receive, hlists, Roster.after]

/-- A referent that is told of a handle that goes away reflects the handles without it. -/
theorem Reflects.leave (h : referent.Reflects config before)
    (hcount : (after.holders referent.address).length + 1 =
      (before.holders referent.address).length)
    (hholds : ∀ other, after.Holds other referent.address ↔
      before.Holds other referent.address ∧ other ≠ serial) :
    (referent.receiveAll config [.notice (.unregister serial), .decrement]).Reflects config
      after := by
  rw [receiveAll_leave]
  constructor
  · have hbefore := h.count_eq
    change referent.count - 1 = (after.holders referent.address).length
    omega
  · intro other
    cases hlists : config.listsHolders <;> simp [h.contains_iff, hholds, hlists, and_comm]

end Referent

namespace Store

variable {config : Config} {store : Store} {serial : Serial} {form : Form} {slot : Slot}
  {provenance : Provenance} {first second handle : Handle}

/-! ## Creation -/

/-- A store with a new handle, of which its referent has been told. -/
def created (config : Config) (store : Store) (form : Form) (slot : Slot)
    (provenance : Provenance) : Store :=
  (store.addHandle form slot).tell config (store.nameAt? slot)
    (provenance.messages store.nextSerial)

/-- A slot that leads nowhere leads to no referent. -/
theorem nameAt?_of_target? (h : slot.target? = none) : store.nameAt? slot = none := by
  rw [nameAt?, h, Option.bind_none, Option.map_none]

/-- No referent lies where an empty slot leads. -/
@[simp] theorem nameAt?_null {scheme : Scheme} : store.nameAt? (Slot.null scheme) = none :=
  nameAt?_of_target? (Slot.target?_null scheme)

/-- No referent lies where the mark of a deleted slot leads. -/
@[simp] theorem nameAt?_deleted {scheme : Scheme} : store.nameAt? (Slot.deleted scheme) = none :=
  nameAt?_of_target? (Slot.target?_deleted scheme)

/-- No referent is told of a new handle that holds none. -/
theorem created_of_target? (h : slot.target? = none) :
    store.created config form slot provenance = store.addHandle form slot := by
  rw [created, nameAt?_of_target? h, tell_none]

/-- A new handle keeps a store consistent. -/
theorem Consistent.created (h : store.Consistent config)
    (hsettled : (store.nextHandle form slot).Settled store)
    (hprovenance : ∀ source, provenance ≠ .moved source) :
    (store.created config form slot provenance).Consistent config where
  toWellFormed := (h.toWellFormed.addHandle hsettled).tell
  reflects := by
    intro referent hmem
    rw [Store.created, referents_tell, referents_addHandle, List.mem_map] at hmem
    obtain ⟨old, hold, rfl⟩ := hmem
    simp only [h.nameAt?_eq_name_iff hold]
    split
    · rename_i haddress
      refine (h.reflects old hold).join hprovenance ?_ fun serial => ?_
      · simp [Store.created, length_holders_addHandle, haddress]
      · simp [Store.created, holds_addHandle, haddress, or_comm]
    · rename_i haddress
      refine (h.reflects old hold).congr ?_ fun serial => ?_
      · simp [Store.created, length_holders_addHandle, haddress]
      · simp [Store.created, holds_addHandle, haddress]

/-! ## Exchange -/

/-- A store in which two handles have exchanged their contents and their registrations. -/
def swapped (config : Config) (store : Store) (a b : Serial) : Store :=
  let exchanged := store.exchangeSlots a b
  if exchanged.target? a = exchanged.target? b then exchanged
  else (exchanged.tell config (exchanged.target? a) [.notice (.move b a)]).tell config
    (exchanged.target? b) [.notice (.move a b)]

/-- After an exchange each of the two handles has the target of the other. -/
theorem target?_exchangeSlots (h : store.WellFormed) {a b : Serial}
    (ha : store.handle? a = some first) (hb : store.handle? b = some second) :
    (store.exchangeSlots a b).target? a = store.nameAt? second.slot ∧
      (store.exchangeSlots a b).target? b = store.nameAt? first.slot := by
  obtain ⟨hfirst, hsecond⟩ := handle?_exchangeSlots h.nodup_serials ha hb
  rw [target?_of_handle? hfirst, target?_of_handle? hsecond]
  exact ⟨nameAt?_congr referents_exchangeSlots, nameAt?_congr referents_exchangeSlots⟩

/-- Handles that hold the same or nothing exchange their contents unnoticed by any referent. -/
theorem Consistent.exchangeSlots_of_same {a b : Serial} (h : store.Consistent config)
    (ha : store.handle? a = some first) (hb : store.handle? b = some second)
    (hform : first.form = second.form)
    (hsame : store.nameAt? second.slot = store.nameAt? first.slot) :
    (store.exchangeSlots a b).Consistent config := by
  refine ⟨h.toWellFormed.exchangeSlots ha hb hform, fun referent hmem => ?_⟩
  rw [referents_exchangeSlots] at hmem
  have hboth : second.address = referent.address ↔ first.address = referent.address := by
    rw [Handle.address, ← h.nameAt?_eq_name_iff hmem, hsame, h.nameAt?_eq_name_iff hmem]
    rfl
  have hcount := @length_holders_exchangeSlots _ _ _ _ _ referent.address h.nodup_serials ha hb
  refine (h.reflects referent hmem).congr hcount fun serial => ?_
  rw [holds_exchangeSlots h.nodup_serials ha hb]
  split
  · rename_i hserial
    rw [hserial, holds_iff_of_handle? h.nodup_serials hb, hboth]
  · split
    · rename_i hserial
      rw [hserial, holds_iff_of_handle? h.nodup_serials ha, hboth]
    · rfl

/-- Handles that hold different referents exchange their contents, and each of the referents is told
which of the two handles holds it now. -/
theorem Consistent.exchangeSlots_of_ne {a b : Serial} (h : store.Consistent config)
    (ha : store.handle? a = some first) (hb : store.handle? b = some second)
    (hform : first.form = second.form)
    (hdiffer : store.nameAt? second.slot ≠ store.nameAt? first.slot) :
    (((store.exchangeSlots a b).tell config (store.nameAt? second.slot)
      [.notice (.move b a)]).tell config (store.nameAt? first.slot)
      [.notice (.move a b)]).Consistent config := by
  refine ⟨(h.toWellFormed.exchangeSlots ha hb hform).tell.tell, fun referent hmem => ?_⟩
  rw [referents_tell, referents_tell, referents_exchangeSlots, List.map_map, List.mem_map] at hmem
  obtain ⟨old, hold, rfl⟩ := hmem
  have hmineName : store.nameAt? second.slot = some old.name ↔ second.address = old.address :=
    h.nameAt?_eq_name_iff hold
  have htheirsName : store.nameAt? first.slot = some old.name ↔ first.address = old.address :=
    h.nameAt?_eq_name_iff hold
  have hne : second.address = old.address → first.address ≠ old.address := fun hmine htheirs =>
    hdiffer ((hmineName.mpr hmine).trans (htheirsName.mpr htheirs).symm)
  have hfirst : store.Holds a old.address ↔ first.address = old.address :=
    holds_iff_of_handle? h.nodup_serials ha
  have hsecond : store.Holds b old.address ↔ second.address = old.address :=
    holds_iff_of_handle? h.nodup_serials hb
  have hcount := @length_holders_exchangeSlots _ _ _ _ _ old.address h.nodup_serials ha hb
  simp only [Function.comp_apply, hmineName]
  by_cases hmineHere : second.address = old.address
  · have hab : a ≠ b := by
      rintro rfl
      exact hne hmineHere (hfirst.mp (hsecond.mpr hmineHere))
    simp only [if_pos hmineHere, Referent.name_receiveAll, htheirsName, if_neg (hne hmineHere)]
    refine (h.reflects old hold).move (by simp [hcount]) fun serial => ?_
    rw [holds_tell, holds_tell, holds_exchangeSlots h.nodup_serials ha hb]
    grind
  · simp only [if_neg hmineHere, htheirsName]
    split
    · rename_i htheirsHere
      refine (h.reflects old hold).move (by simp [hcount]) fun serial => ?_
      rw [holds_tell, holds_tell, holds_exchangeSlots h.nodup_serials ha hb]
      grind
    · rename_i htheirsHere
      refine (h.reflects old hold).congr (by simp [hcount]) fun serial => ?_
      rw [holds_tell, holds_tell, holds_exchangeSlots h.nodup_serials ha hb]
      grind

/-- What two handles of one form hold is exchanged along with their registrations, so a store stays
consistent. -/
theorem Consistent.swapped {a b : Serial} (h : store.Consistent config)
    (ha : store.handle? a = some first) (hb : store.handle? b = some second)
    (hform : first.form = second.form) : (store.swapped config a b).Consistent config := by
  obtain ⟨hmine, htheirs⟩ := target?_exchangeSlots h.toWellFormed ha hb
  unfold Store.swapped
  simp only [hmine, htheirs]
  split
  · rename_i hsame
    exact h.exchangeSlots_of_same ha hb hform hsame
  · rename_i hdiffer
    exact h.exchangeSlots_of_ne ha hb hform hdiffer

/-! ## Release -/

/-- A store without a handle, of which its referent has been told. -/
def released (config : Config) (store : Store) (serial : Serial) : Store :=
  (store.removeHandle serial).tell config (store.target? serial)
    [.notice (.unregister serial), .decrement]

/-- A handle that does not exist can be released without effect. -/
theorem released_of_handle?_eq_none (h : store.handle? serial = none) :
    store.released config serial = store := by
  rw [released, target?_of_handle?_eq_none h, tell_none, removeHandle_of_handle?_eq_none h]

/-- A handle that goes away leaves a store consistent. -/
theorem Consistent.released (h : store.Consistent config) (serial : Serial) :
    (store.released config serial).Consistent config := by
  cases hfound : store.handle? serial with
  | none => rwa [released_of_handle?_eq_none hfound]
  | some handle =>
    refine ⟨h.removeHandle.tell, fun referent hmem => ?_⟩
    rw [Store.released, referents_tell, referents_removeHandle, List.mem_map] at hmem
    obtain ⟨old, hold, rfl⟩ := hmem
    have hname : store.nameAt? handle.slot = some old.name ↔ handle.address = old.address :=
      h.nameAt?_eq_name_iff hold
    have hlength : ((store.removeHandle serial).holders old.address).length +
        (if handle.address = old.address then 1 else 0) = (store.holders old.address).length :=
      length_holders_removeHandle h.nodup_serials hfound
    have hholds : store.Holds serial old.address ↔ handle.address = old.address :=
      holds_iff_of_handle? h.nodup_serials hfound
    simp only [target?_of_handle? hfound, hname]
    split
    · rename_i haddress
      rw [if_pos haddress] at hlength
      refine (h.reflects old hold).leave (by simpa [Store.released] using hlength) fun other => ?_
      rw [Store.released, holds_tell, holds_removeHandle]
    · rename_i haddress
      rw [if_neg haddress] at hlength
      refine (h.reflects old hold).congr (by simpa [Store.released] using hlength) fun other => ?_
      rw [Store.released, holds_tell, holds_removeHandle]
      grind

/-! ## Change of form -/

/-- A new handle that takes the place of one that has just given up what it held completes the
change to a consistent store. -/
theorem Consistent.takenOver {between : Store} (h : store.Consistent config)
    (hfound : store.handle? serial = some handle) (hbetween : between.WellFormed)
    (hreferents : between.referents = store.referents)
    (hcount : ∀ address ∈ store.sites, (between.holders address).length +
      (if handle.address = address then 1 else 0) = (store.holders address).length)
    (hholds : ∀ other, ∀ address ∈ store.sites, between.Holds other address ↔
      store.Holds other address ∧ other ≠ serial)
    (hsite : handle.address ∈ store.sites) :
    (between.created config form handle.slot (.moved serial)).Consistent config := by
  have hsites : between.sites = store.sites := congrArg (List.map Referent.address) hreferents
  refine ⟨(hbetween.addHandle (Or.inr (by rwa [hsites]))).tell, fun referent hmem => ?_⟩
  rw [Store.created, referents_tell, referents_addHandle, hreferents, List.mem_map] at hmem
  obtain ⟨old, hold, rfl⟩ := hmem
  have hlength := hcount old.address (List.mem_map_of_mem hold)
  have hbefore := fun other => hholds other old.address (List.mem_map_of_mem hold)
  have hname : between.nameAt? handle.slot = some old.name ↔ handle.address = old.address := by
    rw [nameAt?_congr hreferents]
    exact h.nameAt?_eq_name_iff hold
  have hserial : store.Holds serial old.address ↔ handle.address = old.address :=
    holds_iff_of_handle? h.nodup_serials hfound
  simp only [hname]
  split
  · rename_i haddress
    rw [if_pos haddress] at hlength
    have hnew : handle.slot.address = old.address := haddress
    refine (h.reflects old hold).move ?_ fun other => ?_
    · simpa [Store.created, length_holders_addHandle, hnew] using hlength
    · simp [Store.created, holds_addHandle, hnew, hbefore, or_comm]
  · rename_i haddress
    rw [if_neg haddress] at hlength
    have hnew : handle.slot.address ≠ old.address := haddress
    refine (h.reflects old hold).congr ?_ fun other => ?_
    · simpa [Store.created, length_holders_addHandle, hnew] using hlength
    · rw [Store.created, holds_tell, holds_addHandle, hbefore]
      grind

/-- A store in which a pointer has given what it held to a new reference. -/
def madeReference (config : Config) (store : Store) (handle : Handle) : Store :=
  ((store.setSlot handle.serial (Slot.null handle.scheme)).addEvent
    (.log (.releasing handle.address .reference))).created config .reference handle.slot
    (.moved handle.serial)

/-- A store in which a reference has given what it held to a new pointer and is gone. -/
def madePointer (config : Config) (store : Store) (handle : Handle) : Store :=
  ((store.removeHandle handle.serial).addEvent
    (.log (.releasing handle.address .pointer))).created config .pointer handle.slot
    (.moved handle.serial)

/-- An emptied handle holds no referent, and all others hold what they held before. -/
theorem WellFormed.holds_setSlot_null (h : store.WellFormed)
    (hfound : store.handle? serial = some handle) {scheme : Scheme} {other : Serial}
    {address : Address} (hsite : address ∈ store.sites) :
    (store.setSlot serial (Slot.null scheme)).Holds other address ↔
      store.Holds other address ∧ other ≠ serial := by
  have hnull : (Slot.null scheme).address ≠ address := h.address_null_ne hsite
  rw [holds_setSlot hfound]
  grind

/-- A reference holds a referent that exists. -/
theorem WellFormed.live_of_reference (h : store.WellFormed)
    (hfound : store.handle? serial = some handle) (hform : handle.form = .reference) :
    handle.address ∈ store.sites := by
  rcases h.settled handle (mem_of_handle? hfound) with ⟨hpointer, -⟩ | hlive
  · rw [hform] at hpointer
    cases hpointer
  · exact hlive

/-- A pointer that becomes a reference leaves a store consistent. -/
theorem Consistent.madeReference (h : store.Consistent config)
    (hfound : store.handle? handle.serial = some handle) (hform : handle.form = .pointer)
    (hsite : handle.address ∈ store.sites) :
    (store.madeReference config handle).Consistent config := by
  have hvacant : ({ handle with slot := Slot.null handle.scheme } : Handle).Settled store :=
    Or.inl ⟨hform, Slot.target?_null _⟩
  refine h.takenOver hfound (h.setSlot hfound hvacant).addEvent rfl ?_ ?_ hsite
  · intro address hmem
    have hlength :=
      @length_holders_setSlot store handle.serial handle (Slot.null handle.scheme) address
      h.nodup_serials hfound
    rw [if_neg (h.address_null_ne hmem)] at hlength
    exact hlength
  · exact fun other address hmem => h.holds_setSlot_null hfound hmem

/-- A reference that becomes a pointer leaves a store consistent. -/
theorem Consistent.madePointer (h : store.Consistent config)
    (hfound : store.handle? handle.serial = some handle) (hform : handle.form = .reference) :
    (store.madePointer config handle).Consistent config := by
  refine h.takenOver hfound h.removeHandle.addEvent rfl ?_ ?_ (h.live_of_reference hfound hform)
  · exact fun address _ => length_holders_removeHandle h.nodup_serials hfound
  · exact fun other address _ => holds_removeHandle

end Store

end CountedHandles
