import CountedHandles.Proofs.Telling

/-!
# Consistent stores

Between operations every handle is vacant or holds a referent that exists, and every referent
reflects the handles: its count is the number of handles that hold it, and its roster, where one is
kept, lists exactly these. The first half does not depend on the configuration and also holds in the
middle of most operations.
-/

namespace CountedHandles

namespace Store

/-- The names of all referents that exist. -/
def names (store : Store) : List String :=
  store.referents.map Referent.name

/-- Where the referents lie that exist. -/
def sites (store : Store) : List Address :=
  store.referents.map Referent.address

/-- The name of the referent to which a slot leads. -/
def nameAt? (store : Store) (slot : Slot) : Option String :=
  (slot.target?.bind store.referentAt?).map Referent.name

end Store

/-- A handle is a vacant pointer or holds the address of a referent that exists. -/
def Handle.Settled (store : Store) (handle : Handle) : Prop :=
  (handle.form = .pointer ∧ handle.slot.target? = none) ∨ handle.address ∈ store.sites

/-- Handles and referents can be told apart, and every handle is settled. -/
structure Store.WellFormed (store : Store) : Prop where
  /-- No two handles share a serial number. -/
  nodup_serials : store.serials.Nodup
  /-- Serial numbers are given out in increasing order. -/
  serial_lt : ∀ serial ∈ store.serials, serial < store.nextSerial
  /-- No two referents share a name. -/
  nodup_names : store.names.Nodup
  /-- No two referents lie at the same address. -/
  nodup_sites : store.sites.Nodup
  /-- Referents lie where referents can lie. -/
  isSite : ∀ address ∈ store.sites, address.isSite = true
  /-- Every handle is settled. -/
  settled : ∀ handle ∈ store.handles, handle.Settled store

/-- A referent knows which handles hold it. -/
structure Referent.Reflects (config : Config) (store : Store) (referent : Referent) : Prop where
  /-- It counts the handles that hold it. -/
  count_eq : referent.count = (store.holders referent.address).length
  /-- It lists the handles that hold it, if it lists any. -/
  contains_iff : ∀ serial, referent.roster.contains serial = true ↔
    config.listsHolders = true ∧ store.Holds serial referent.address

/-- The state of a store between operations. -/
structure Store.Consistent (config : Config) (store : Store) : Prop extends store.WellFormed where
  /-- Every referent knows which handles hold it. -/
  reflects : ∀ referent ∈ store.referents, referent.Reflects config store

namespace Store

variable {config : Config} {store other : Store} {name? : Option String} {messages : List Message}
  {serial a b : Serial} {address : Address} {handle first second : Handle} {referent : Referent}
  {slot : Slot} {form : Form} {event : Event}

/-- Which referent lies where depends on the referents alone. -/
theorem nameAt?_congr (h : other.referents = store.referents) :
    other.nameAt? slot = store.nameAt? slot := by
  have hat : other.referentAt? = store.referentAt? := by
    funext address
    rw [referentAt?, h, referentAt?]
  rw [nameAt?, hat, nameAt?]

/-- The target of a handle is the referent to which its content leads. -/
theorem target?_of_handle? (h : store.handle? serial = some handle) :
    store.target? serial = store.nameAt? handle.slot := by
  simp [target?, h, targetOf?, nameAt?]

/-- A serial number without a handle has no target. -/
theorem target?_of_handle?_eq_none (h : store.handle? serial = none) :
    store.target? serial = none := by
  simp [target?, h]

/-! ## What calls leave alone -/

@[simp] theorem serials_tell : (store.tell config name? messages).serials = store.serials := by
  simp [serials]

@[simp] theorem names_tell : (store.tell config name? messages).names = store.names := by
  rw [names, referents_tell]
  apply map_key_map
  intro referent
  split <;> simp

@[simp] theorem sites_tell : (store.tell config name? messages).sites = store.sites := by
  rw [sites, referents_tell]
  apply map_key_map
  intro referent
  split <;> simp

@[simp] theorem holds_tell :
    (store.tell config name? messages).Holds serial address ↔ store.Holds serial address := by
  simp [Holds]

@[simp] theorem holders_tell :
    (store.tell config name? messages).holders address = store.holders address := by
  simp [holders]

@[simp] theorem handle?_tell :
    (store.tell config name? messages).handle? serial = store.handle? serial := by
  simp [handle?]

/-- Calls do not change which referent lies where. -/
@[simp] theorem nameAt?_tell :
    (store.tell config name? messages).nameAt? slot = store.nameAt? slot := by
  unfold nameAt?
  cases slot.target? with
  | none => rfl
  | some address =>
    have hat : (store.tell config name? messages).referentAt? address =
        (store.referentAt? address).map fun referent =>
          if name? = some referent.name then referent.receiveAll config messages else referent := by
      rw [referentAt?, referents_tell]
      apply find?_key_map
      intro referent
      split <;> simp
    rw [Option.bind_some, Option.bind_some, hat]
    cases store.referentAt? address with
    | none => rfl
    | some referent =>
      simp only [Option.map_some]
      split <;> simp

/-! ## Well-formed stores -/

/-- Whether a store is well formed depends on its handles and on the names and places of its
referents. -/
theorem WellFormed.congr (h : store.WellFormed) (hhandles : other.handles = store.handles)
    (hnext : other.nextSerial = store.nextSerial) (hnames : other.names = store.names)
    (hsites : other.sites = store.sites) : other.WellFormed where
  nodup_serials := by simpa only [serials, hhandles] using h.nodup_serials
  serial_lt := by simpa only [serials, hhandles, hnext] using h.serial_lt
  nodup_names := hnames ▸ h.nodup_names
  nodup_sites := hsites ▸ h.nodup_sites
  isSite := hsites ▸ h.isSite
  settled := by simpa only [Handle.Settled, hhandles, hsites] using h.settled

namespace WellFormed

/-- No handle bears the serial number that comes next. -/
theorem nextSerial_notMem (h : store.WellFormed) : store.nextSerial ∉ store.serials :=
  fun hmem => absurd (h.serial_lt _ hmem) (Nat.lt_irrefl _)

/-- No referent lies at the null address. -/
theorem address_null_ne (h : store.WellFormed) {scheme : Scheme} {address : Address}
    (hsite : address ∈ store.sites) : (Slot.null scheme).address ≠ address := by
  rw [Slot.address_null]
  exact (Slot.ne_null_of_isSite (h.isSite address hsite)).symm

/-- Calls keep a store well formed. -/
theorem tell (h : store.WellFormed) : (store.tell config name? messages).WellFormed :=
  h.congr (by simp) (by simp) (by simp) (by simp)

/-- Events keep a store well formed. -/
theorem addEvent (h : store.WellFormed) : (store.addEvent event).WellFormed :=
  h.congr rfl rfl rfl rfl

/-- A new handle that is settled keeps a store well formed. -/
theorem addHandle (h : store.WellFormed) (hsettled : (store.nextHandle form slot).Settled store) :
    (store.addHandle form slot).WellFormed where
  nodup_serials := by
    rw [serials_addHandle, ← List.concat_eq_append, List.nodup_concat]
    exact ⟨h.nextSerial_notMem, h.nodup_serials⟩
  serial_lt := by
    intro serial hmem
    rw [serials_addHandle, List.mem_append, List.mem_singleton] at hmem
    rw [nextSerial_addHandle]
    rcases hmem with hmem | rfl
    · exact Nat.lt_succ_of_lt (h.serial_lt serial hmem)
    · exact Nat.lt_succ_self _
  nodup_names := h.nodup_names
  nodup_sites := h.nodup_sites
  isSite := h.isSite
  settled := by
    intro handle hmem
    rw [handles_addHandle, List.mem_append, List.mem_singleton] at hmem
    rcases hmem with hmem | rfl
    · exact h.settled handle hmem
    · exact hsettled

/-- Another settled content keeps a store well formed. -/
theorem setSlot (h : store.WellFormed) (hfound : store.handle? serial = some handle)
    (hsettled : ({ handle with slot := slot } : Handle).Settled store) :
    (store.setSlot serial slot).WellFormed where
  nodup_serials := by simpa using h.nodup_serials
  serial_lt := by simpa using h.serial_lt
  nodup_names := h.nodup_names
  nodup_sites := h.nodup_sites
  isSite := h.isSite
  settled := by
    intro other hmem
    rcases mem_setSlot.mp hmem with ⟨hmem, -⟩ | ⟨old, hold, hserial, rfl⟩
    · exact h.settled other hmem
    · have hsame := (handle?_eq_some_iff h.nodup_serials).mpr ⟨hold, hserial⟩
      rw [hfound] at hsame
      exact Option.some.inj hsame ▸ hsettled

/-- An exchange between handles of one form keeps a store well formed. -/
theorem exchangeSlots (h : store.WellFormed) (ha : store.handle? a = some first)
    (hb : store.handle? b = some second) (hform : first.form = second.form) :
    (store.exchangeSlots a b).WellFormed := by
  have hfirst : ({ first with slot := second.slot } : Handle).Settled store := by
    rcases h.settled second (mem_of_handle? hb) with ⟨hpointer, hvacant⟩ | hsite
    · exact Or.inl ⟨hform.trans hpointer, hvacant⟩
    · exact Or.inr hsite
  have hsecond : ({ second with slot := first.slot } : Handle).Settled store := by
    rcases h.settled first (mem_of_handle? ha) with ⟨hpointer, hvacant⟩ | hsite
    · exact Or.inl ⟨hform.symm.trans hpointer, hvacant⟩
    · exact Or.inr hsite
  rw [exchangeSlots_eq ha hb]
  refine (h.setSlot ha hfirst).setSlot (handle?_setSlot h.nodup_serials hb) ?_
  split
  · exact hsecond
  · exact hsecond

/-- A handle that goes away leaves a store well formed. -/
theorem removeHandle (h : store.WellFormed) : (store.removeHandle serial).WellFormed where
  nodup_serials := by
    rw [serials_removeHandle]
    exact h.nodup_serials.filter _
  serial_lt := by
    intro other hmem
    rw [serials_removeHandle] at hmem
    exact h.serial_lt other (List.mem_of_mem_filter hmem)
  nodup_names := h.nodup_names
  nodup_sites := h.nodup_sites
  isSite := h.isSite
  settled := fun handle hmem => h.settled handle (List.mem_of_mem_filter hmem)

/-- A slot leads to the referent that lies at its address, if there is one. -/
theorem nameAt?_eq_some_iff (h : store.WellFormed) {name : String} :
    store.nameAt? slot = some name ↔
      ∃ referent ∈ store.referents, referent.name = name ∧ referent.address = slot.address := by
  constructor
  · intro hname
    obtain ⟨referent, hfound, heq⟩ := Option.map_eq_some_iff.mp hname
    obtain ⟨address, htarget, hat⟩ := Option.bind_eq_some_iff.mp hfound
    obtain ⟨hmem, haddress⟩ := (referentAt?_eq_some_iff h.nodup_sites).mp hat
    exact ⟨referent, hmem, heq, haddress.trans (Slot.address_of_target? htarget).symm⟩
  · rintro ⟨referent, hmem, rfl, haddress⟩
    have hsite : slot.address.isSite = true :=
      h.isSite _ (haddress ▸ List.mem_map_of_mem hmem)
    have hat : store.referentAt? slot.address = some referent :=
      (referentAt?_eq_some_iff h.nodup_sites).mpr ⟨hmem, haddress⟩
    simp [nameAt?, Slot.target?_of_isSite hsite, hat]

/-- A slot leads to a given referent exactly when it holds its address. -/
theorem nameAt?_eq_name_iff (h : store.WellFormed) (hreferent : referent ∈ store.referents) :
    store.nameAt? slot = some referent.name ↔ slot.address = referent.address := by
  rw [h.nameAt?_eq_some_iff]
  constructor
  · rintro ⟨other, hother, hname, haddress⟩
    rw [← haddress, List.inj_on_of_nodup_map h.nodup_names hother hreferent hname]
  · exact fun haddress => ⟨referent, hreferent, rfl, haddress.symm⟩

/-- A slot leads nowhere exactly when no referent lies at its address. -/
theorem nameAt?_eq_none_iff (h : store.WellFormed) :
    store.nameAt? slot = none ↔ slot.address ∉ store.sites := by
  rw [Option.eq_none_iff_forall_ne_some, sites, List.mem_map]
  constructor
  · rintro hnone ⟨referent, hmem, haddress⟩
    exact hnone _ ((h.nameAt?_eq_name_iff hmem).mpr haddress.symm)
  · intro hsite name hname
    obtain ⟨referent, hmem, -, haddress⟩ := h.nameAt?_eq_some_iff.mp hname
    exact hsite ⟨referent, hmem, haddress⟩

/-- The serial number that comes next holds nothing yet. -/
theorem not_holds_nextSerial (h : store.WellFormed) : ¬ store.Holds store.nextSerial address := by
  rintro ⟨handle, hmem, hserial, -⟩
  exact h.nextSerial_notMem (hserial ▸ List.mem_map_of_mem hmem)

/-- A handle that exists does not have the serial number that comes next. -/
theorem ne_nextSerial (h : store.WellFormed) (hfound : store.handle? serial = some handle) :
    serial ≠ store.nextSerial := by
  rintro rfl
  rw [handle?_eq_none_iff.mpr h.nextSerial_notMem] at hfound
  cases hfound

/-- The target of a new handle is the referent to which its content leads. -/
theorem target?_addHandle (h : store.WellFormed) :
    (store.addHandle form slot).target? store.nextSerial = store.nameAt? slot := by
  rw [target?_of_handle? (handle?_addHandle_nextSerial h.nextSerial_notMem)]
  exact nameAt?_congr referents_addHandle

end WellFormed

end Store

end CountedHandles
