import CountedHandles.Handle.Bucket
import CountedHandles.Proofs.Destruction
import CountedHandles.Proofs.Renewal
import CountedHandles.Proofs.Unwinding
import Mathlib.Data.List.Perm.Subperm

/-!
# Counts that cover their holders

A count may be higher than the number of handles that hold the referent, but it must never be lower,
nor higher than a word can hold. This file shows that nothing breaks that but a count that is lowered
for no handle: whatever the rosters list, every operation leaves counts that cover their holders,
whether it succeeds or panics.
-/

namespace CountedHandles

open Operation

namespace Store

variable {store base : Store} {config : Config} {created : List String} {spare : List Address}
  {handle first second : Handle} {s a b : Serial} {form form' : Form} {slot : Slot} {name : String}
  {address : Address} {referent : Referent} {event : Event} {value : Int64}

/-- The names of the referents that exist, each with the place where it lies. -/
def places (store : Store) : List (String × Address) :=
  store.referents.map fun referent => (referent.name, referent.address)

/-- The names of the referents are those of the places. -/
theorem names_eq_places : store.names = store.places.map Prod.fst := by
  rw [names, places, List.map_map]
  rfl

/-- Referents lie at the places. -/
theorem sites_eq_places : store.sites = store.places.map Prod.snd := by
  rw [sites, places, List.map_map]
  rfl

/-- Where the places are the same, the same referents are found in them. -/
theorem exists_mem_of_places_eq (h : store.places = base.places)
    (hmem : referent ∈ base.referents) :
    ∃ found ∈ store.referents, found.name = referent.name ∧ found.address = referent.address := by
  have hplace : (referent.name, referent.address) ∈ store.places := h ▸ List.mem_map_of_mem hmem
  obtain ⟨found, hfound, heq⟩ := List.mem_map.mp hplace
  exact ⟨found, hfound, Prod.mk.inj heq⟩

/-- Every count covers the handles that hold the referent, and beyond these as many more as there
are spare addresses that are its place. It fits in a word as long as the serial numbers do. The
referents are among those that have been created. -/
structure Covers (store : Store) (created : List String) (spare : List Address) : Prop extends
    store.WellFormed where
  /-- No count is too low. -/
  covers : ∀ referent ∈ store.referents,
    (store.holders referent.address).length + spare.count referent.address ≤ referent.count
  /-- No count is too high. -/
  bounded : store.nextSerial < Referent.wordMax →
    ∀ referent ∈ store.referents, referent.count ≤ Referent.wordMax
  /-- No referent has a name of its own making. -/
  named : ∀ name ∈ store.names, name ∈ created

/-- A store has the handles of another one, and its referents lie in the same places. -/
structure Resembles (store base : Store) : Prop where
  /-- The handles are the same. -/
  handles_eq : store.handles = base.handles
  /-- The next handle has the same serial number. -/
  nextSerial_eq : store.nextSerial = base.nextSerial
  /-- The referents have the same names and lie in the same places. -/
  places_eq : store.places = base.places

namespace Resembles

theorem refl : store.Resembles store := ⟨rfl, rfl, rfl⟩

theorem trans {other : Store} (h : store.Resembles base) (hbase : base.Resembles other) :
    store.Resembles other :=
  ⟨h.handles_eq.trans hbase.handles_eq, h.nextSerial_eq.trans hbase.nextSerial_eq,
    h.places_eq.trans hbase.places_eq⟩

/-- The same handles are found. -/
theorem handle?_eq (h : store.Resembles base) (s : Serial) : store.handle? s = base.handle? s := by
  rw [handle?, h.handles_eq, handle?]

/-- The same handles hold an address. -/
theorem holders_eq (h : store.Resembles base) (address : Address) :
    store.holders address = base.holders address := by
  rw [holders, h.handles_eq, holders]

/-- Referents lie at the same sites. -/
theorem sites_eq (h : store.Resembles base) : store.sites = base.sites := by
  rw [sites_eq_places, h.places_eq, sites_eq_places]

/-- What resembles a well-formed store is well formed. -/
theorem wellFormed (h : store.Resembles base) (hbase : base.WellFormed) : store.WellFormed :=
  hbase.congr h.handles_eq h.nextSerial_eq
    (by rw [names_eq_places, h.places_eq, names_eq_places]) h.sites_eq

end Resembles

/-- There are no more handles than serial numbers that have been given out. -/
theorem WellFormed.length_handles_le (h : store.WellFormed) :
    store.handles.length ≤ store.nextSerial := by
  have hsubset : store.serials ⊆ List.range store.nextSerial := fun serial hmem =>
    List.mem_range.mpr (h.serial_lt serial hmem)
  have hlength := (h.nodup_serials.subperm hsubset).length_le
  rwa [serials, List.length_map, List.length_range] at hlength

/-- As long as the serial numbers fit in a word, a count is limited by what a word holds. -/
theorem WellFormed.countLimit_eq (h : store.WellFormed)
    (hnext : store.nextSerial < Referent.wordMax) :
    Referent.countLimit store = Referent.wordMax :=
  Nat.max_eq_left (Nat.le_trans h.length_handles_le (Nat.le_of_lt hnext))

namespace Covers

/-- Events do not matter to any count. -/
theorem congr (h : base.Covers created spare) (hhandles : store.handles = base.handles)
    (hnext : store.nextSerial = base.nextSerial) (hreferents : store.referents = base.referents) :
    store.Covers created spare where
  toWellFormed := h.toWellFormed.congr hhandles hnext (congrArg (List.map Referent.name) hreferents)
    (congrArg (List.map Referent.address) hreferents)
  covers := by
    intro referent hmem
    rw [holders, hhandles]
    exact h.covers referent (hreferents ▸ hmem)
  bounded := by
    rw [hnext, hreferents]
    exact h.bounded
  named := by
    rw [names, hreferents]
    exact h.named

/-- Less has to be covered if an address is no longer spare. -/
theorem weaken (h : store.Covers created (address :: spare)) : store.Covers created spare := by
  refine ⟨h.toWellFormed, fun referent hmem => ?_, h.bounded, h.named⟩
  have hcovered := h.covers referent hmem
  rw [List.count_cons] at hcovered
  omega

/-- A new handle takes what was spare for it. -/
theorem addHandle (h : store.Covers created (slot.address :: spare))
    (hsettled : (store.nextHandle form slot).Settled store) :
    (store.addHandle form slot).Covers created spare := by
  refine ⟨h.toWellFormed.addHandle hsettled, fun referent hmem => ?_,
    fun hnext => h.bounded (Nat.lt_of_succ_lt hnext), h.named⟩
  have hcovered := h.covers referent hmem
  rw [length_holders_addHandle]
  simp only [List.count_cons, beq_iff_eq] at hcovered
  omega

/-- A new handle that holds no referent needs nothing to be spare. -/
theorem addHandle_of_notMem (h : store.Covers created spare)
    (hsettled : (store.nextHandle form slot).Settled store) (hsite : slot.address ∉ store.sites) :
    (store.addHandle form slot).Covers created spare := by
  refine ⟨h.toWellFormed.addHandle hsettled, fun referent hmem => ?_,
    fun hnext => h.bounded (Nat.lt_of_succ_lt hnext), h.named⟩
  have hne : slot.address ≠ referent.address := fun heq => hsite (heq ▸ List.mem_map_of_mem hmem)
  rw [length_holders_addHandle, if_neg hne]
  exact h.covers referent hmem

/-- A handle that goes away leaves spare what it held. -/
theorem removeHandle (h : store.Covers created spare) (hfound : store.handle? s = some handle) :
    (store.removeHandle s).Covers created (handle.address :: spare) := by
  refine ⟨h.toWellFormed.removeHandle, fun referent hmem => ?_, h.bounded, h.named⟩
  have hcovered := h.covers referent hmem
  have hremoved : ((store.removeHandle s).holders referent.address).length +
      (if handle.address = referent.address then 1 else 0) =
        (store.holders referent.address).length :=
    length_holders_removeHandle h.nodup_serials hfound
  simp only [List.count_cons, beq_iff_eq]
  omega

/-- A pointer that is emptied leaves spare what it held. -/
theorem setSlot_null (h : store.Covers created spare) (hfound : store.handle? s = some handle)
    (hform : handle.form = .pointer) {scheme : Scheme} :
    (store.setSlot s (Slot.null scheme)).Covers created (handle.address :: spare) := by
  refine ⟨h.toWellFormed.setSlot hfound (Or.inl ⟨hform, Slot.target?_null _⟩), ?_, h.bounded,
    h.named⟩
  intro referent hmem
  have hcovered := h.covers referent hmem
  have hnull : (Slot.null scheme).address ≠ referent.address :=
    h.address_null_ne (List.mem_map_of_mem hmem)
  have hemptied := @length_holders_setSlot store s handle (Slot.null scheme) referent.address
    h.nodup_serials hfound
  rw [if_neg hnull] at hemptied
  simp only [List.count_cons, beq_iff_eq]
  omega

/-- An exchange of contents leaves every count as good as it was. -/
theorem exchangeSlots (h : store.Covers created spare) (ha : store.handle? a = some first)
    (hb : store.handle? b = some second) (hform : first.form = second.form) :
    (store.exchangeSlots a b).Covers created spare := by
  refine ⟨h.toWellFormed.exchangeSlots ha hb hform, fun referent hmem => ?_, ?_, ?_⟩
  · rw [length_holders_exchangeSlots h.nodup_serials ha hb]
    rw [referents_exchangeSlots] at hmem
    exact h.covers referent hmem
  · rw [nextSerial_exchangeSlots, referents_exchangeSlots]
    exact h.bounded
  · rw [names, referents_exchangeSlots]
    exact h.named

/-- A new referent has nothing to cover. -/
theorem addReferent (h : store.Covers created []) (hname : name ∉ created)
    (hfree : address ∉ store.sites) (hsite : address.isSite = true) :
    (store.addReferent name address value).Covers (created ++ [name]) [] where
  toWellFormed := h.toWellFormed.addReferent (fun hmem => hname (h.named name hmem)) hfree hsite
  covers := by
    intro referent hmem
    rw [Store.addReferent, List.mem_append, List.mem_singleton] at hmem
    rcases hmem with hmem | rfl
    · exact h.covers referent hmem
    · have hnone : (store.holders address).length = 0 :=
        length_holders_eq_zero_iff.mpr fun _ => h.not_holds_of_free hsite hfree
      exact Nat.le_of_eq hnone
  bounded := by
    intro hnext referent hmem
    rw [Store.addReferent, List.mem_append, List.mem_singleton] at hmem
    rcases hmem with hmem | rfl
    · exact h.bounded hnext referent hmem
    · exact Nat.zero_le _
  named := by
    intro found hmem
    rw [names, Store.addReferent, List.map_append, List.mem_append] at hmem
    rw [List.mem_append]
    exact hmem.imp (h.named found) (by simp)

/-- A referent that no handle holds takes no count away when it goes. -/
theorem removeReferent (h : store.Covers created spare) (hmem : referent ∈ store.referents)
    (hnone : ∀ handle ∈ store.handles, handle.address ≠ referent.address) :
    (store.removeReferent referent.name).Covers created spare where
  toWellFormed := h.toWellFormed.removeReferent hmem fun serial => by
    rintro ⟨handle, hhandle, -, heq⟩
    exact hnone handle hhandle heq
  covers := fun other hother => h.covers other (List.mem_of_mem_filter hother)
  bounded := fun hnext other hother => h.bounded hnext other (List.mem_of_mem_filter hother)
  named := fun found hfound =>
    h.named found ((List.filter_sublist.map Referent.name).subset hfound)

/-- No handle holds a referent that counts nothing. -/
theorem address_ne_of_count (h : store.Covers created spare) (hmem : referent ∈ store.referents)
    (hcount : referent.count = 0) :
    ∀ handle ∈ store.handles, handle.address ≠ referent.address := by
  have hcovered := h.covers referent hmem
  have hnone : (store.holders referent.address).length = 0 := by omega
  rw [length_holders_eq_zero_iff] at hnone
  exact fun handle hhandle heq => hnone handle.serial ⟨handle, hhandle, rfl, heq⟩

end Covers

/-- The form of the handle with a given serial number. -/
def form? (store : Store) (serial : Serial) : Option Form :=
  (store.handle? serial).map Handle.form

/-- No handle has the serial number that comes next. -/
theorem WellFormed.form?_nextSerial (h : store.WellFormed) :
    store.form? store.nextSerial = none := by
  rw [form?, handle?_eq_none_iff.mpr h.nextSerial_notMem]
  rfl

/-- A new handle has its form. -/
theorem form?_addHandle_nextSerial (h : store.WellFormed) :
    (store.addHandle form slot).form? store.nextSerial = some form := by
  rw [form?, handle?_addHandle_nextSerial h.nextSerial_notMem]
  rfl

/-- A new handle leaves the forms of all others. -/
theorem form?_addHandle_of_some (h : store.form? s = some form') :
    (store.addHandle form slot).form? s = some form' := by
  obtain ⟨handle, hfound, rfl⟩ := Option.map_eq_some_iff.mp h
  rw [form?, handle?_addHandle_of_some hfound]
  rfl

/-- Another content does not change the form of a handle. -/
theorem form?_setSlot : (store.setSlot a slot).form? s = store.form? s := by
  have hfind : (store.setSlot a slot).handle? s = (store.handle? s).map fun handle =>
      if handle.serial == a then { handle with slot := slot } else handle := by
    apply find?_key_map
    intro handle
    split <;> rfl
  rw [form?, hfind, Option.map_map, form?]
  congr 1
  funext handle
  rw [Function.comp_apply]
  split <;> rfl

/-- An exchange of contents does not change the form of a handle. -/
theorem form?_exchangeSlots : (store.exchangeSlots a b).form? s = store.form? s := by
  unfold exchangeSlots
  split
  · rw [form?_setSlot, form?_setSlot]
  · rfl

/-- A handle that goes away leaves the forms of all others. -/
theorem form?_removeHandle (hne : s ≠ a) : (store.removeHandle a).form? s = store.form? s := by
  rw [form?, handle?_removeHandle hne, form?]

/-- The same handles have the same forms. -/
theorem Resembles.form?_eq (h : store.Resembles base) (s : Serial) :
    store.form? s = base.form? s := by
  rw [form?, h.handle?_eq, form?]

/-- What is left of the creation of a handle of some form: a store whose counts cover their holders,
in which it is found, and in which every handle from before is found with its form. -/
structure Gains (created : List String) (base : Store) (form : Form) (serial : Serial)
    (store : Store) : Prop extends store.Covers created [] where
  /-- The new handle was not there before. -/
  fresh : base.form? serial = none
  /-- The new handle is found. -/
  new : store.form? serial = some form
  /-- The handles from before are found. -/
  old : ∀ s form, base.form? s = some form → store.form? s = some form

/-- What is left when handles have been released: a store whose counts cover their holders, without
new handles and with the referents in their places. -/
structure Wanes (created : List String) (base store : Store) : Prop extends
    store.Covers created [] where
  /-- No handle is new. -/
  subset : store.handles ⊆ base.handles
  /-- The referents have the same names and lie in the same places. -/
  places_eq : store.places = base.places

/-- What is left when a referent has been destroyed: a store whose counts cover their holders, and
in which no handle holds the address of the referent. -/
structure Lacks (created : List String) (referent : Referent) (store : Store) : Prop extends
    store.Covers created [] where
  /-- The referent is gone. -/
  name_notMem : referent.name ∉ store.names
  /-- No handle is left at its address. -/
  address_ne : ∀ handle ∈ store.handles, handle.address ≠ referent.address

/-- What is left of an operation: a store that resembles a given one, and whose counts cover their
holders and, beyond these, spare addresses. -/
structure Left (created : List String) (spare : List Address) (base store : Store) : Prop extends
    store.Covers created spare where
  /-- The given store has the same handles and the same places. -/
  resembles : store.Resembles base

namespace Left

variable {spare' : List Address} {change : Referent → Referent}

/-- Less is left if an address is no longer spare. -/
theorem weaken (h : Left created (address :: spare) base store) : Left created spare base store :=
  ⟨h.toCovers.weaken, h.resembles⟩

/-- An event changes neither handles nor referents. -/
theorem addEvent (h : Left created spare base store) :
    Left created spare base (store.addEvent event) :=
  ⟨h.toCovers.congr rfl rfl rfl,
    ⟨h.resembles.handles_eq, h.resembles.nextSerial_eq, h.resembles.places_eq⟩⟩

/-- A referent that stays where it is goes on to be covered if its count changes as much as what it
has to cover and still fits in a word. -/
theorem updateReferent (h : Left created spare base store)
    (hplace : ∀ referent, ((change referent).name, (change referent).address) =
      (referent.name, referent.address))
    (hnamed : ∀ referent ∈ store.referents, referent.name = name →
      spare'.count referent.address + referent.count ≤
        spare.count referent.address + (change referent).count)
    (hbounded : store.nextSerial < Referent.wordMax → ∀ referent ∈ store.referents,
      referent.name = name → referent.count ≤ Referent.wordMax →
        (change referent).count ≤ Referent.wordMax)
    (hothers : ∀ referent ∈ store.referents, referent.name ≠ name →
      spare'.count referent.address ≤ spare.count referent.address) :
    Left created spare' base (store.updateReferent name change) := by
  have hresembles : (store.updateReferent name change).Resembles store := by
    refine ⟨rfl, rfl, map_key_map fun referent => ?_⟩
    split
    · exact hplace referent
    · rfl
  have hnames : (store.updateReferent name change).names = store.names := by
    rw [names_eq_places, hresembles.places_eq, names_eq_places]
  refine ⟨⟨hresembles.wellFormed h.toWellFormed, fun referent hmem => ?_,
    fun hnext referent hmem => ?_, hnames ▸ h.named⟩, hresembles.trans h.resembles⟩
  · rw [hresembles.holders_eq]
    obtain ⟨old, hold, rfl⟩ := List.mem_map.mp hmem
    have hcovered := h.covers old hold
    by_cases hname : old.name = name
    · have hchanged := hnamed old hold hname
      have haddress : (change old).address = old.address := congrArg Prod.snd (hplace old)
      simp only [hname, beq_self_eq_true, if_true, haddress]
      omega
    · have hkept := hothers old hold hname
      simp only [beq_iff_eq, hname, if_false]
      omega
  · obtain ⟨old, hold, rfl⟩ := List.mem_map.mp hmem
    have hfits := h.bounded hnext old hold
    by_cases hname : old.name = name
    · simpa [hname] using hbounded hnext old hold hname hfits
    · simpa [hname] using hfits

/-- A count that is raised leaves the place of its referent spare. -/
theorem raise (h : Left created spare base store) (hmem : referent ∈ store.referents)
    (hroom : store.nextSerial < Referent.wordMax → referent.count < Referent.wordMax) :
    Left created (referent.address :: spare) base
      (store.updateReferent referent.name fun referent =>
        { referent with count := referent.count + 1 }) := by
  refine h.updateReferent (fun _ => rfl) (fun other hother hname => ?_)
    (fun hnext other hother hname _ => ?_) fun other hother hname => ?_
  · rw [List.inj_on_of_nodup_map h.nodup_names hother hmem hname, List.count_cons_self]
    change _ ≤ spare.count referent.address + (referent.count + 1)
    omega
  · rw [List.inj_on_of_nodup_map h.nodup_names hother hmem hname]
    exact hroom hnext
  · have hne : referent.address ≠ other.address := fun heq =>
      hname (List.inj_on_of_nodup_map h.nodup_sites hmem hother heq ▸ rfl)
    exact Nat.le_of_eq (List.count_cons_of_ne hne)

end Left

end Store

open Store

variable {store base : Store} {config : Config} {created : List String} {spare : List Address}
  {handle first second source : Handle} {s a b : Serial} {form : Form} {slot : Slot} {name : String}
  {address : Address} {scheme : Scheme} {referent : Referent} {notice : Notice}

namespace Referent

/-- A roster that follows a notice, or that objects to it, matters to no count. -/
theorem leaves_follow (h : Left created spare base store) :
    (follow config name notice).Leaves store (fun _ => Left created spare base)
      (Left created spare base) := by
  refine leaves_bind (leaves_modify (leaves_bind (leaves_of_run (run_get _) ?_)))
  have hrecorded := @Left.addEvent _ _ _ _ (.log (.following notice)) h
  cases (store.addEvent (.log (.following notice))).referent? name with
  | none => exact leaves_pure hrecorded
  | some referent =>
    dsimp only
    generalize referent.roster.follow config.build.assertions notice = followed
    obtain ⟨roster, objection?⟩ := followed
    have hfollowed := @Left.updateReferent _ _ _ _ name spare
      (fun referent => { referent with roster := roster }) hrecorded (fun _ => rfl)
      (fun _ _ _ => Nat.le_refl _) (fun _ _ _ _ => id) fun _ _ _ => Nat.le_refl _
    refine leaves_bind (leaves_modify ?_)
    cases objection? with
    | none => exact leaves_pure hfollowed
    | some cause => exact leaves_panic hfollowed

/-- A notice of whatever handles matters to no count. -/
theorem leaves_notify (h : Left created spare base store) :
    (notify config name notice).Leaves store (fun _ => Left created spare base)
      (Left created spare base) := by
  unfold notify
  split
  · refine leaves_bind (leaves_modify ?_)
    split
    · exact leaves_follow h.addEvent
    · exact leaves_pure h.addEvent
  · exact leaves_pure h

/-- A count that has room is raised; one that has none ends the run. -/
theorem leaves_increment_of_room {done : Unit → Store → Prop} {cut : Store → Prop}
    (h : (∀ referent, store.referent? name = some referent → referent.count < countLimit store) →
      done () ((store.addEvent (.call ⟨name, .increment⟩ store.handles)).updateReferent name
        fun referent => { referent with count := referent.count + 1 })) :
    (increment name).Leaves store done cut := by
  by_cases hroom : ∀ referent, store.referent? name = some referent →
      referent.count < countLimit store
  · exact leaves_of_run (run_increment_of_room hroom) (h hroom)
  · obtain ⟨referent, hroom⟩ := not_forall.mp hroom
    obtain ⟨hfound, hfull⟩ := Classical.not_imp.mp hroom
    obtain ⟨after, hrun⟩ := run_increment_of_full hfound (Nat.le_of_not_lt hfull)
    unfold Leaves
    rw [hrun]
    trivial

/-- A count may be raised for no handle. -/
theorem leaves_increment {cut : Store → Prop} (h : Left created spare base store) :
    (increment name).Leaves store (fun _ => Left created spare base) cut := by
  refine leaves_increment_of_room fun hroom => ?_
  refine h.addEvent.updateReferent (fun _ => rfl)
    (fun _ _ _ => Nat.add_le_add_left (Nat.le_succ _) _) (fun hnext referent hmem hname _ => ?_)
    fun _ _ _ => Nat.le_refl _
  have hfound := (referent?_eq_some_iff h.nodup_names).mpr ⟨hmem, hname⟩
  rw [← h.toWellFormed.countLimit_eq hnext]
  exact hroom referent hfound

/-- A count that has something to spare is lowered by what is spare. -/
theorem leaves_decrement {cut : Store → Prop}
    (h : Left created (referent.address :: spare) base store) (hmem : referent ∈ store.referents) :
    (decrement config referent.name).Leaves store (fun _ => Left created spare base) cut := by
  have hfound : store.referent? referent.name = some referent :=
    (referent?_eq_some_iff h.nodup_names).mpr ⟨hmem, rfl⟩
  have hcovered := h.covers referent hmem
  rw [List.count_cons_self] at hcovered
  refine leaves_of_run (run_decrement hfound (by omega)) (h.addEvent.updateReferent (fun _ => rfl)
    (fun other hother hname => ?_) (fun _ other _ _ => Nat.le_trans (Nat.sub_le other.count 1))
    fun other hother hname => ?_)
  · rw [List.inj_on_of_nodup_map h.nodup_names hother hmem hname, List.count_cons_self]
    change _ ≤ spare.count referent.address + 1 + (referent.count - 1)
    omega
  · exact List.count_le_count_cons

end Referent

namespace Handle

/-- A handle that is released gives up no more than its own count, even if its referent objects. -/
theorem leaves_release (h : store.Covers created []) :
    (release config s).Leaves store (fun _ => Left created [] (store.removeHandle s))
      (Left created [] (store.removeHandle s)) := by
  refine leaves_bind (leaves_of_run (run_target? _ _) (leaves_bind (leaves_modify ?_)))
  cases hfound : store.handle? s with
  | none =>
    rw [target?_of_handle?_eq_none hfound, removeHandle_of_handle?_eq_none hfound]
    exact leaves_pure ⟨h, .refl⟩
  | some handle =>
    have hremoved : Left created [handle.address] (store.removeHandle s) (store.removeHandle s) :=
      ⟨h.removeHandle hfound, .refl⟩
    refine leaves_onTarget (fun _ => hremoved.weaken) fun name hname => ?_
    rw [target?_of_handle? hfound] at hname
    obtain ⟨referent, hmem, rfl, haddress⟩ := h.nameAt?_eq_some_iff.mp hname
    refine leaves_bind ((Referent.leaves_notify hremoved).imp (fun _ after hafter => ?_)
      fun after hafter => hafter.weaken)
    obtain ⟨found, hlive, hname, hplace⟩ := exists_mem_of_places_eq hafter.resembles.places_eq hmem
    rw [← hname]
    refine Referent.leaves_decrement ?_ hlive
    rwa [hplace, haddress]

/-- A panic releases the temporary handle of an operation. -/
theorem leaves_withTemporary {operation : Operation α} {done : α → Store → Prop}
    (h : operation.Leaves store done fun after => after.Covers created []) :
    (withTemporary config s operation).Leaves store done fun after => after.Covers created [] :=
  leaves_recovering (h.imp (fun _ _ => id) fun _ hafter =>
    (leaves_release hafter).imp (fun _ _ hleft => hleft.toCovers) fun _ _ => trivial)

/-- A target is given notice of whatever handles. -/
theorem leaves_notifyTarget {name? : Option String} (h : Left created spare base store) :
    (onTarget name? fun name => Referent.notify config name notice).Leaves store
      (fun _ => Left created spare base) (Left created spare base) :=
  leaves_onTarget (fun _ => h) fun _ _ => Referent.leaves_notify h

/-- Handles that exchange their contents leave every count alone, even if a referent objects. -/
theorem leaves_swap (h : store.Covers created []) (ha : store.form? a = some form)
    (hb : store.form? b = some form) :
    (swap config a b).Leaves store (fun _ => Left created [] (store.exchangeSlots a b))
      (Left created [] (store.exchangeSlots a b)) := by
  obtain ⟨first, hfirst, rfl⟩ := Option.map_eq_some_iff.mp ha
  obtain ⟨second, hsecond, hform⟩ := Option.map_eq_some_iff.mp hb
  have hexchanged : Left created [] (store.exchangeSlots a b) (store.exchangeSlots a b) :=
    ⟨h.exchangeSlots hfirst hsecond hform.symm, .refl⟩
  refine leaves_bind (leaves_modify (leaves_bind (leaves_of_run (run_target? _ _)
    (leaves_bind (leaves_of_run (run_target? _ _) ?_)))))
  split
  · refine leaves_bind ((leaves_notifyTarget hexchanged).imp (fun _ _ hafter => ?_) fun _ => id)
    exact leaves_notifyTarget hafter
  · exact leaves_pure hexchanged

/-- A new handle is announced, or else released again. -/
theorem leaves_announced {announce : Serial → String → Operation Unit} (h : store.WellFormed)
    (hvacant : store.nameAt? slot = none → (store.addHandle form slot).Covers created [])
    (hannounce : ∀ name, store.nameAt? slot = some name →
      (announce store.nextSerial name).Leaves (store.addHandle form slot)
        (fun _ => Left created [] (store.addHandle form slot))
        fun after => after.Covers created []) :
    (announced config form slot announce).Leaves store (Gains created store form)
      fun after => after.Covers created [] := by
  refine leaves_bind (leaves_of_run (run_addHandle _ _ _) (leaves_bind (leaves_of_run
    (run_target? _ _) (leaves_bind ?_))))
  rw [h.target?_addHandle]
  have hgains : ∀ after, Left created [] (store.addHandle form slot) after →
      Gains created store form store.nextSerial after := fun after hafter =>
    ⟨hafter.toCovers, h.form?_nextSerial,
      (hafter.resembles.form?_eq _).trans (form?_addHandle_nextSerial h),
      fun s form hold => (hafter.resembles.form?_eq s).trans (form?_addHandle_of_some hold)⟩
  refine leaves_onTarget (fun hnone => hgains _ ⟨hvacant hnone, .refl⟩) fun name hname => ?_
  exact leaves_withTemporary ((hannounce name hname).imp (fun _ => hgains) fun _ => id)

/-- A new handle is counted before its referent is told of it. -/
theorem leaves_join {notice : Serial → Notice} (h : store.Covers created [])
    (hsettled : (store.nextHandle form slot).Settled store) :
    (announced config form slot fun serial name => do
      Referent.increment name
      Referent.notify config name (notice serial)).Leaves store (Gains created store form)
      fun after => after.Covers created [] := by
  refine leaves_announced h.toWellFormed (fun hnone => ?_) fun name hname => ?_
  · exact h.addHandle_of_notMem hsettled (h.nameAt?_eq_none_iff.mp hnone)
  · obtain ⟨referent, hmem, rfl, haddress⟩ := h.nameAt?_eq_some_iff.mp hname
    refine leaves_bind (Referent.leaves_increment_of_room fun hroom => ?_)
    have hfits (hnext : store.nextSerial < Referent.wordMax) :
        referent.count < Referent.wordMax := by
      have hlimit : Referent.countLimit (store.addHandle form slot) = Referent.wordMax := by
        refine Nat.max_eq_left (Nat.le_trans ?_ (Nat.succ_le_of_lt hnext))
        simpa [Store.addHandle] using h.toWellFormed.length_handles_le
      exact hlimit ▸ hroom referent (h.toWellFormed.referent?_of_mem hmem)
    -- It makes no difference whether the count is raised before or after the handle comes to be.
    have hraised := Left.raise ⟨h, .refl⟩ hmem hfits
    rw [haddress] at hraised
    have hadded := @Covers.addHandle _ _ _ form _ hraised.toCovers
      (hsettled.imp_right fun hlive => hraised.resembles.sites_eq ▸ hlive)
    have hcounted : Left created [] (store.addHandle form slot)
        ((store.addHandle form slot).receive config referent.name .increment) :=
      ⟨hadded.congr rfl rfl rfl, rfl, rfl, hraised.resembles.places_eq⟩
    exact (Referent.leaves_notify hcounted).imp (fun _ _ => id) fun _ hafter => hafter.toCovers

/-- A handle is created from an address that may be held, or the address does not fit. -/
theorem leaves_ofAddress (h : store.Covers created [])
    (hsettled : ∀ slot, Slot.ofAddress scheme address = .ok slot →
      (store.nextHandle form slot).Settled store) :
    (ofAddress config form scheme address).Leaves store (Gains created store form)
      fun after => after.Covers created [] := by
  unfold ofAddress
  cases hslot : Slot.ofAddress scheme address with
  | error cause => exact leaves_panic h
  | ok slot => exact leaves_join h (hsettled slot hslot)

/-- A copy of a handle is created. -/
theorem leaves_copyAs (h : store.Covers created []) (hfound : store.handle? s = some source)
    (hform : form = source.form ∨ form = .pointer) :
    (copyAs config form source).Leaves store (Gains created store form)
      fun after => after.Covers created [] :=
  leaves_join h (WellFormed.settled_copy h.toWellFormed hfound hform)

/-- A pointer that holds nothing is created. -/
theorem leaves_vacant {cut : Store → Prop} (h : store.Covers created [])
    (hvacant : slot.target? = none) :
    (addHandle .pointer slot).Leaves store (Gains created store .pointer) cut := by
  have hsettled : (store.nextHandle .pointer slot).Settled store := Or.inl ⟨rfl, hvacant⟩
  refine leaves_of_run (run_addHandle _ _ _) ⟨h.addHandle_of_notMem hsettled ?_,
    h.form?_nextSerial, form?_addHandle_nextSerial h.toWellFormed,
    fun s form => form?_addHandle_of_some⟩
  exact h.nameAt?_eq_none_iff.mp (nameAt?_of_target? hvacant)

/-- A handle that takes over from one that has given up what it held needs no count of its own. -/
theorem leaves_takeOver (h : store.Covers created [slot.address])
    (hsettled : (store.nextHandle form slot).Settled store) :
    (takeOver config form slot s).Leaves store (fun _ after => after.Covers created [])
      fun after => after.Covers created [] := by
  have hadded := h.addHandle hsettled
  refine (leaves_announced h.toWellFormed (fun _ => hadded) fun name _ => ?_).imp
    (fun _ _ hgains => hgains.toCovers) fun _ => id
  exact (Referent.leaves_notify ⟨hadded, .refl⟩).imp (fun _ _ => id) fun _ hafter => hafter.toCovers

/-- A pointer becomes a reference, or both are left without a referent. -/
theorem leaves_toReference (h : store.Covers created [])
    (hfound : store.handle? handle.serial = some handle) (hform : handle.form = .pointer) :
    (toReference config handle).Leaves store (fun _ after => after.Covers created [])
      fun after => after.Covers created [] := by
  refine leaves_bind (leaves_of_run (run_target? _ _) ?_)
  cases hname : store.target? handle.serial with
  | none => exact leaves_panic h
  | some name =>
    rw [target?_of_handle? hfound] at hname
    obtain ⟨referent, hmem, -, haddress⟩ := h.nameAt?_eq_some_iff.mp hname
    have hlive : handle.slot.address ∈ store.sites := haddress ▸ List.mem_map_of_mem hmem
    have hemptied := @Covers.setSlot_null _ _ _ _ _ h hfound hform handle.scheme
    refine leaves_bind (leaves_modify (leaves_bind (leaves_modify (leaves_takeOver ?_ ?_))))
    · exact hemptied.congr rfl rfl rfl
    · exact Or.inr hlive

/-- A reference becomes a pointer, or its referent is left without it. -/
theorem leaves_toPointer (h : store.Covers created [])
    (hfound : store.handle? handle.serial = some handle) (hform : handle.form = .reference) :
    (toPointer config handle).Leaves store (fun _ after => after.Covers created [])
      fun after => after.Covers created [] := by
  have hlive : handle.slot.address ∈ store.sites := h.live_of_reference hfound hform
  refine leaves_bind (leaves_modify (leaves_bind (leaves_modify (leaves_takeOver ?_ ?_))))
  · exact (h.removeHandle hfound).congr rfl rfl rfl
  · exact Or.inr hlive

/-- A handle changes contents with a temporary one, which is released with what it got. -/
theorem leaves_reassign (h : store.Covers created []) (ha : store.form? a = some form)
    (hb : store.form? b = some form) :
    (reassign config a b).Leaves store (fun _ after => after.Covers created [])
      fun after => after.Covers created [] := by
  have hswap := @leaves_swap _ config _ _ _ _ h ha hb
  refine leaves_bind ((leaves_withTemporary (hswap.imp (fun _ _ => id) fun _ hafter =>
    hafter.toCovers)).imp (fun _ _ hafter => ?_) fun _ => id)
  exact (leaves_release hafter.toCovers).imp (fun _ _ hleft => hleft.toCovers) fun _ hleft =>
    hleft.toCovers

/-- A handle is given a new content through a temporary handle. -/
theorem leaves_renew {creation : Operation Serial}
    (hcreation : creation.Leaves store (Gains created store form)
      fun after => after.Covers created [])
    (hform : store.form? s = some form) :
    (do reassign config s (← creation) : Operation Unit).Leaves store
      (fun _ after => after.Covers created []) fun after => after.Covers created [] :=
  leaves_bind (hcreation.imp (fun _ _ hgains =>
    leaves_reassign hgains.toCovers (hgains.old s form hform) hgains.new) fun _ => id)

/-- A value is moved out of a pointer to a new one. -/
theorem leaves_moveOut (h : store.Covers created [])
    (hform : store.form? handle.serial = some .pointer) :
    (moveOut config handle).Leaves store (Gains created store .pointer)
      fun after => after.Covers created [] := by
  refine leaves_bind ((leaves_vacant h (Slot.target?_null _)).imp (fun fresh after hgains => ?_)
    fun _ => id)
  refine leaves_bind (leaves_withTemporary ((leaves_swap hgains.toCovers hgains.new
    (hgains.old _ _ hform)).imp (fun _ final hleft => ?_) fun _ hleft => hleft.toCovers))
  have hforms : ∀ s, final.form? s = after.form? s := fun s =>
    (hleft.resembles.form?_eq s).trans form?_exchangeSlots
  exact leaves_pure ⟨hleft.toCovers, hgains.fresh, (hforms fresh).trans hgains.new,
    fun s form hold => (hforms s).trans (hgains.old s form hold)⟩

/-- A bucket is deleted, or a panic leaves it empty. -/
theorem leaves_vacateBucket (h : store.Covers created [])
    (hform : store.form? handle.serial = some .pointer) :
    (vacateBucket config handle).Leaves store (fun _ after => after.Covers created [])
      fun after => after.Covers created [] := by
  unfold vacateBucket requireNotDeleted
  refine leaves_bind ?_
  split
  · exact leaves_panic h
  · have hrecorded : (store.addEvent (.log (.reclaiming handle.address))).Covers created [] :=
      h.congr rfl rfl rfl
    refine leaves_pure (leaves_bind (leaves_modify (leaves_bind ((leaves_moveOut hrecorded
      hform).imp (fun doomed after hgains => ?_) fun _ => id))))
    refine leaves_bind ((leaves_release hgains.toCovers).imp (fun _ emptied hleft => ?_)
      fun _ hleft => hleft.toCovers)
    have hne : handle.serial ≠ doomed := fun heq => by
      have hfresh := hgains.fresh
      rw [← heq] at hfresh
      exact absurd (hfresh.symm.trans hform) (by simp)
    have hmark := @leaves_vacant _ _ _ (fun after => after.Covers created []) hleft.toCovers
      (Slot.target?_deleted handle.scheme)
    refine @leaves_renew _ config _ _ _ (deleted handle.scheme) hmark ?_
    rw [hleft.resembles.form?_eq, form?_removeHandle hne]
    exact hgains.old _ _ hform

/-- Handles that are released one after the other leave only what was there before. -/
theorem leaves_releaseAll {serials : List Serial} (h : Wanes created base store) :
    (releaseAll config serials).Leaves store (fun _ => Wanes created base)
      (Wanes created base) := by
  induction serials generalizing store with
  | nil => exact leaves_pure h
  | cons serial rest ih =>
    have hwanes : ∀ after, Left created [] (store.removeHandle serial) after →
        Wanes created base after := fun after hleft => ⟨hleft.toCovers,
        fun handle hmem => h.subset (List.mem_of_mem_filter (hleft.resembles.handles_eq ▸ hmem)),
        hleft.resembles.places_eq.trans h.places_eq⟩
    refine leaves_ensuring ((leaves_release h.toCovers).imp (fun _ after hleft => ?_)
      fun after hleft => ?_)
    · exact ih (hwanes after hleft)
    · exact (ih (hwanes after hleft)).imp (fun _ _ => id) fun _ _ => trivial

/-- Handles that are released one after the other keep counts covered, whichever of them panic. -/
theorem leaves_releaseEach {serials : List Serial} {cut : Store → Prop}
    (h : store.Covers created []) :
    (releaseEach config serials).Leaves store (fun _ after => after.Covers created []) cut := by
  induction serials generalizing store with
  | nil => exact leaves_pure h
  | cons serial rest ih =>
    have hrelease := @leaves_release store config _ serial h
    unfold Leaves at hrelease ⊢
    unfold releaseEach
    cases hrun : release config serial store with
    | ok _ after =>
      rw [hrun] at hrelease
      exact ih hrelease.toCovers
    | error fault after =>
      rw [hrun] at hrelease
      cases fault with
      | panic cause =>
        dsimp only
        rw [map_eq_pure_bind]
        exact leaves_bind ((ih hrelease.toCovers).imp (fun _ _ hafter => leaves_pure hafter)
          fun _ => id)
      | violation violation => trivial
      | collapse => trivial

end Handle

namespace Referent

/-- A check that finds nothing finds a referent that no handle holds. -/
theorem leaves_checkLifetime {cut : Store → Prop} (h : Wanes created base store)
    (hmem : referent ∈ base.referents) :
    (checkLifetime referent.name).Leaves store (fun _ after => Wanes created base after ∧
      ∀ handle ∈ after.handles, handle.address ≠ referent.address) cut := by
  obtain ⟨found, hlive, hname, haddress⟩ := exists_mem_of_places_eq h.places_eq hmem
  have hfound : store.referent? referent.name = some found :=
    (referent?_eq_some_iff h.nodup_names).mpr ⟨hlive, hname⟩
  unfold Leaves
  rw [run_checkLifetime, violationOf?, hfound, Option.bind_some, violation?]
  by_cases hcount : found.count = 0
  · rw [if_pos hcount]
    exact ⟨h, haddress ▸ h.address_ne_of_count hlive hcount⟩
  · rw [if_neg hcount]
    trivial

/-- Once a referent has dropped its links and has passed its check, in whichever order, no handle
holds it. -/
theorem leaves_dropAndCheck {first : Bool} {serials : List Serial} (h : store.Covers created [])
    (hmem : referent ∈ store.referents) :
    (if first then ensuring (checkLifetime referent.name) (Handle.releaseAll config serials)
      else ensuring (Handle.releaseAll config serials) (checkLifetime referent.name)).Leaves store
      (fun _ after => Wanes created store after ∧
        ∀ handle ∈ after.handles, handle.address ≠ referent.address)
      fun after => Wanes created store after ∧
        ∀ handle ∈ after.handles, handle.address ≠ referent.address := by
  have hstart : Wanes created store store := ⟨h, List.Subset.refl _, rfl⟩
  cases first with
  | false =>
    refine leaves_ensuring ((Handle.leaves_releaseAll hstart).imp (fun _ after hwanes => ?_)
      fun after hwanes => ?_)
    · exact leaves_checkLifetime hwanes hmem
    · exact leaves_checkLifetime hwanes hmem
  | true =>
    -- The links that are dropped after the check bring no holder back.
    have hdrop : ∀ checked, Wanes created store checked →
        (∀ handle ∈ checked.handles, handle.address ≠ referent.address) → ∀ after,
          Wanes created checked after → Wanes created store after ∧
            ∀ handle ∈ after.handles, handle.address ≠ referent.address :=
      fun checked hchecked hnone after hafter =>
        ⟨⟨hafter.toCovers, List.Subset.trans hafter.subset hchecked.subset,
          hafter.places_eq.trans hchecked.places_eq⟩,
          fun handle hhandle => hnone handle (hafter.subset hhandle)⟩
    refine leaves_ensuring ((leaves_checkLifetime hstart hmem).imp ?_ fun _ => id)
    rintro _ checked ⟨hchecked, hnone⟩
    exact (Handle.leaves_releaseAll ⟨hchecked.toCovers, List.Subset.refl _, rfl⟩).imp
      (fun _ => hdrop checked hchecked hnone) (hdrop checked hchecked hnone)

/-- A referent that is destroyed without a violation leaves no handle behind, even if one of its
links panics. -/
theorem leaves_destroy (h : store.Covers created []) (hmem : referent ∈ store.referents) :
    (destroy config referent).Leaves store (fun _ => Lacks created referent)
      (Lacks created referent) := by
  have hremove : ∀ after, (Wanes created store after ∧
      ∀ handle ∈ after.handles, handle.address ≠ referent.address) →
        Lacks created referent (after.removeReferent referent.name) := by
    rintro after ⟨hwanes, hnone⟩
    obtain ⟨found, hlive, hname, haddress⟩ := exists_mem_of_places_eq hwanes.places_eq hmem
    refine ⟨?_, by simp [names, removeReferent], hnone⟩
    exact hname ▸ hwanes.toCovers.removeReferent hlive (haddress ▸ hnone)
  exact leaves_ensuring ((leaves_dropAndCheck h hmem).imp
    (fun _ after hafter => leaves_modify (hremove after hafter))
    fun after hafter => leaves_modify (hremove after hafter))

end Referent

end CountedHandles
