import CountedHandles.Proofs.Numbering
import CountedHandles.Proofs.Protocol
import Mathlib.Logic.Function.Basic

/-!
# How handles stand

All that a consistent store knows of its handles can be told handle by handle: a handle has a form
and a content, and the referent that it holds says how it came to hold it. A census lists this for
every serial number, next to what is known of the referents apart from the handles that hold them.
Every act of handles changes what the census says of one or two of them and of no other.
-/

namespace CountedHandles

/-- How a handle stands. -/
structure Standing where
  /-- Pointer or reference. -/
  form : Form
  /-- What it holds. -/
  slot : Slot
  /-- How it came to hold its referent, if that keeps a record of it. -/
  origin? : Option Provenance
deriving DecidableEq

/-- What is known of a store apart from the events and from the order of its handles. -/
@[ext] structure Census where
  /-- The serial number of the next handle. -/
  nextSerial : Serial
  /-- The referents apart from the handles that hold them. -/
  ground : List Referent
  /-- How the handle with a given serial number stands, if there is one. -/
  standing? : Serial → Option Standing

namespace Referent

variable {config : Config} {referent : Referent} {message : Message} {messages : List Message}
  {provenance : Provenance} {serial other : Serial}

/-- A referent apart from the handles that hold it. -/
def bare (referent : Referent) : Referent :=
  { referent with count := 0, roster := .empty }

/-- Referents that are the same apart from the handles that hold them bear the same name. -/
theorem name_of_bare {later : Referent} (h : later.bare = referent.bare) :
    later.name = referent.name := by
  have hname : later.bare.name = referent.bare.name := by rw [h]
  exact hname

/-- Referents that are the same apart from the handles that hold them lie at the same address. -/
theorem address_of_bare {later : Referent} (h : later.bare = referent.bare) :
    later.address = referent.address := by
  have haddress : later.bare.address = referent.bare.address := by rw [h]
  exact haddress

@[simp] theorem bare_receive : (referent.receive config message).bare = referent.bare := by
  unfold receive
  split <;> try split
  all_goals rfl

/-- Calls change only what a referent knows of handles. -/
@[simp] theorem bare_receiveAll : (referent.receiveAll config messages).bare = referent.bare := by
  induction messages generalizing referent with
  | nil => rfl
  | cons message messages ih => rw [receiveAll_cons, ih, bare_receive]

/-- A referent that is told of a handle enters it as it came, in place of the one that it has taken
over from. -/
theorem provenance?_receiveAll_messages :
    (referent.receiveAll config (provenance.messages serial)).roster.provenance? other =
      if config.listsHolders then
        if other = serial then some provenance
        else if provenance = .moved other then none
        else referent.roster.provenance? other
      else referent.roster.provenance? other := by
  cases provenance with
  | moved source =>
    rw [Provenance.messages, receiveAll_move]
    cases config.listsHolders with
    | false => rfl
    | true => simp [Roster.provenance?_insert, Roster.provenance?_erase, eq_comm]
  | created =>
    rw [receiveAll_messages (by simp)]
    cases config.listsHolders <;> simp [Roster.provenance?_insert]
  | copied source =>
    rw [receiveAll_messages (by simp)]
    cases config.listsHolders <;> simp [Roster.provenance?_insert]

/-- A referent that is told that a handle leaves keeps the entries of all others. -/
theorem provenance?_receiveAll_leave (hne : other ≠ serial) :
    (referent.receiveAll config
      [.notice (.unregister serial), .decrement]).roster.provenance? other =
      referent.roster.provenance? other := by
  rw [receiveAll_leave]
  cases config.listsHolders with
  | false => rfl
  | true => simp [Roster.provenance?_erase, hne]

end Referent

namespace Census

/-- The name of the referent to which a slot leads. -/
def nameAt? (census : Census) (slot : Slot) : Option String :=
  ({ referents := census.ground } : Store).nameAt? slot

/-- How the referent to which a slot leads, if there is one, enters a handle that comes. -/
def entry? (config : Config) (census : Census) (slot : Slot) (provenance : Provenance) :
    Option Provenance :=
  if config.listsHolders then (census.nameAt? slot).map fun _ => provenance else none

/-- A handle comes to stand in another way, or goes. -/
def put (census : Census) (serial : Serial) (standing? : Option Standing) : Census :=
  { census with standing? := Function.update census.standing? serial standing? }

/-- Only the handle that comes to stand in another way does. -/
@[simp] theorem standing?_put {census : Census} {s other : Serial} {standing? : Option Standing} :
    (census.put s standing?).standing? other =
      if other = s then standing? else census.standing? other :=
  Function.update_apply ..

/-- A handle is created. -/
def create (config : Config) (census : Census) (form : Form) (slot : Slot)
    (provenance : Provenance) : Census :=
  { census.put census.nextSerial (some ⟨form, slot, census.entry? config slot provenance⟩) with
    nextSerial := census.nextSerial + 1 }

/-- Only the new handle stands in another way than before. -/
theorem standing?_create {config : Config} {census : Census} {form : Form} {slot : Slot}
    {provenance : Provenance} {s : Serial} :
    (census.create config form slot provenance).standing? s =
      if s = census.nextSerial then some ⟨form, slot, census.entry? config slot provenance⟩
      else census.standing? s :=
  standing?_put

/-- How a handle stands once it holds what another handle held. -/
def given (config : Config) (census : Census) (old new : Standing) (source : Serial) : Standing :=
  ⟨old.form, new.slot,
    if census.nameAt? new.slot = census.nameAt? old.slot then old.origin?
    else census.entry? config new.slot (.moved source)⟩

/-- Two handles exchange what they hold. -/
def exchange (config : Config) (census : Census) (a b : Serial) : Census :=
  match census.standing? a, census.standing? b with
  | some first, some second =>
    (census.put a (some (census.given config first second b))).put b
      (some (census.given config second first a))
  | _, _ => census

/-- Two handles that stand in known ways exchange what they hold. -/
theorem exchange_of_standing? {config : Config} {census : Census} {a b : Serial}
    {first second : Standing} (ha : census.standing? a = some first)
    (hb : census.standing? b = some second) :
    census.exchange config a b = (census.put a (some (census.given config first second b))).put b
      (some (census.given config second first a)) := by
  simp only [exchange, ha, hb]

end Census

namespace Store

/-- How a handle came to hold its referent, if that keeps a record of it. -/
def origin? (store : Store) (serial : Serial) : Option Provenance :=
  (store.target? serial).bind fun name =>
    (store.referent? name).bind fun referent => referent.roster.provenance? serial

/-- How the handle with a given serial number stands, if there is one. -/
def standing? (store : Store) (serial : Serial) : Option Standing :=
  (store.handle? serial).map fun handle => ⟨handle.form, handle.slot, store.origin? serial⟩

/-- What is known of a store apart from the events and from the order of its handles. -/
def census (store : Store) : Census where
  nextSerial := store.nextSerial
  ground := store.referents.map Referent.bare
  standing? := store.standing?

variable {config : Config} {store before after : Store} {name : String} {name? : Option String}
  {messages : List Message} {event : Event} {a b s : Serial} {first second handle : Handle}
  {form : Form} {slot : Slot} {provenance : Provenance} {referent : Referent} {scheme : Scheme}

/-! ## What a census is made from -/

@[simp] theorem nextSerial_census : store.census.nextSerial = store.nextSerial := rfl

@[simp] theorem standing?_census : store.census.standing? s = store.standing? s := rfl

/-- A census knows which referent lies where. -/
@[simp] theorem nameAt?_census : store.census.nameAt? slot = store.nameAt? slot := by
  unfold Census.nameAt? nameAt?
  cases slot.target? with
  | none => rfl
  | some address =>
    have hat : ({ referents := store.census.ground } : Store).referentAt? address =
        (store.referentAt? address).map Referent.bare :=
      find?_key_map fun _ => rfl
    rw [Option.bind_some, Option.bind_some, hat, Option.map_map]
    rfl

/-- Which referent lies where depends on what referents are apart from the handles that hold them.
-/
theorem nameAt?_of_ground
    (h : after.referents.map Referent.bare = store.referents.map Referent.bare) :
    after.nameAt? slot = store.nameAt? slot := by
  have hground : after.census.ground = store.census.ground := h
  rw [← nameAt?_census, ← @nameAt?_census store, Census.nameAt?, hground, Census.nameAt?]

/-- Where referents lie depends on what they are apart from the handles that hold them. -/
theorem sites_of_ground
    (h : after.referents.map Referent.bare = store.referents.map Referent.bare) :
    after.sites = store.sites := by
  have hplaces := congrArg (List.map Referent.address) h
  rwa [List.map_map, List.map_map] at hplaces

/-- A handle that is found stands as its content and its origin say. -/
theorem standing?_of_handle? (h : store.handle? s = some handle) :
    store.standing? s = some ⟨handle.form, handle.slot, store.origin? s⟩ := by
  rw [standing?, h, Option.map_some]

/-- A handle that stands in some way is found with its form and content. -/
theorem handle?_of_standing? {standing : Standing} (h : store.standing? s = some standing) :
    store.handle? s = some ⟨s, standing.form, standing.slot⟩ ∧
      standing.origin? = store.origin? s := by
  obtain ⟨handle, hfound, rfl⟩ := Option.map_eq_some_iff.mp h
  obtain rfl := serial_of_handle? hfound
  exact ⟨hfound, rfl⟩

/-- What is found of a handle is how it stands, apart from its origin. -/
theorem handle?_eq_map_standing? :
    store.handle? s =
      (store.standing? s).map fun standing => ⟨s, standing.form, standing.slot⟩ := by
  cases hfound : store.handle? s with
  | none => rw [standing?, hfound, Option.map_none, Option.map_none]
  | some handle =>
    obtain rfl := serial_of_handle? hfound
    rw [standing?_of_handle? hfound, Option.map_some]

/-- How handles stand depends on what is found of handles, targets and referents. -/
theorem standing?_congr (hhandle : after.handle? s = before.handle? s)
    (horigin : ∀ handle, before.handle? s = some handle → after.origin? s = before.origin? s) :
    after.standing? s = before.standing? s := by
  rw [standing?, hhandle, standing?]
  cases hfound : before.handle? s with
  | none => rfl
  | some handle => rw [horigin handle hfound]

/-- Events change nothing in a census. -/
@[simp] theorem census_addEvent : (store.addEvent event).census = store.census := rfl

/-- A referent that is told something is found changed, and all others are found as they were. -/
theorem referent?_tell :
    (store.tell config name? messages).referent? name =
      (store.referent? name).map fun referent =>
        if name? = some name then referent.receiveAll config messages else referent := by
  have hmap : (store.tell config name? messages).referent? name =
      (store.referent? name).map fun referent =>
        if name? = some referent.name then referent.receiveAll config messages else referent := by
    rw [referent?, referents_tell]
    apply find?_key_map
    intro referent
    split <;> simp
  rw [hmap]
  cases hfound : store.referent? name with
  | none => rfl
  | some referent =>
    have hname : referent.name = name := by simpa using List.find?_some hfound
    rw [Option.map_some, Option.map_some, hname]

/-- Calls change the origin of a handle only at the referent that it holds. -/
theorem origin?_tell :
    (store.tell config name? messages).origin? s =
      (store.target? s).bind fun name => (store.referent? name).bind fun referent =>
        (if name? = some name then referent.receiveAll config messages
          else referent).roster.provenance? s := by
  simp only [origin?, target?_tell, referent?_tell, Option.bind_map]
  rfl

/-- Calls change only what referents know of handles. -/
@[simp] theorem ground_tell :
    (store.tell config name? messages).referents.map Referent.bare =
      store.referents.map Referent.bare := by
  rw [referents_tell, List.map_map]
  refine List.map_congr_left fun referent _ => ?_
  rw [Function.comp_apply]
  split
  · exact Referent.bare_receiveAll
  · rfl

/-- Where no referent keeps a record no handle has an origin. -/
theorem Consistent.provenance?_eq_none (h : store.Consistent config)
    (hlists : config.listsHolders = false) (hmem : referent ∈ store.referents) :
    referent.roster.provenance? s = none := by
  rw [← Option.not_isSome_iff_eq_none]
  intro hcontains
  have hlisting := ((h.reflects referent hmem).contains_iff s).mp hcontains
  rw [hlists] at hlisting
  exact absurd hlisting.1 Bool.false_ne_true

/-- The referent to which a slot leads is found under its name. -/
theorem WellFormed.exists_referent? (h : store.WellFormed)
    (hname : store.nameAt? slot = some name) :
    ∃ referent ∈ store.referents, store.referent? name = some referent := by
  obtain ⟨referent, hmem, rfl, -⟩ := h.nameAt?_eq_some_iff.mp hname
  exact ⟨referent, hmem, h.referent?_of_mem hmem⟩

/-- A referent that is told of a handle that is new to it enters it. -/
theorem WellFormed.bind_provenance? (h : store.WellFormed)
    (hnew : config.listsHolders = false → ∀ referent ∈ store.referents,
      referent.roster.provenance? s = none) :
    ((store.nameAt? slot).bind fun name => (store.referent? name).bind fun referent =>
      (referent.receiveAll config (provenance.messages s)).roster.provenance? s) =
      store.census.entry? config slot provenance := by
  rw [Census.entry?, nameAt?_census]
  cases hname : store.nameAt? slot with
  | none => simp
  | some name =>
    obtain ⟨referent, hmem, hfound⟩ := h.exists_referent? hname
    rw [Option.bind_some, hfound, Option.bind_some, Referent.provenance?_receiveAll_messages]
    cases hlists : config.listsHolders with
    | false => simp [hnew hlists referent hmem]
    | true => simp

/-! ## Creation -/

/-- A new handle leaves all others as they are. -/
theorem handle?_addHandle_of_ne (hne : s ≠ store.nextSerial) :
    (store.addHandle form slot).handle? s = store.handle? s := by
  have hnew : (store.nextSerial == s) = false := by simpa using Ne.symm hne
  rw [handle?, handles_addHandle, List.find?_append, ← handle?]
  simp [nextHandle, hnew]

/-- A new handle is entered as it was created if it holds a referent, and the handle from which it
takes over has been emptied before. -/
theorem WellFormed.census_created (h : store.WellFormed)
    (hnew : config.listsHolders = false → ∀ referent ∈ store.referents,
      referent.roster.provenance? store.nextSerial = none)
    (hmoved : ∀ source, provenance = .moved source → store.target? source = none) :
    (store.created config form slot provenance).census =
      store.census.create config form slot provenance := by
  refine Census.ext nextSerial_created ground_tell (funext fun s => ?_)
  have hput : (store.census.create config form slot provenance).standing? s =
      if s = store.nextSerial then
        some ⟨form, slot, store.census.entry? config slot provenance⟩ else store.standing? s :=
    Census.standing?_put
  rw [hput, standing?_census]
  split
  · rename_i hserial
    subst hserial
    rw [standing?_of_handle? (handle?_created_nextSerial h), created, origin?_tell,
      h.target?_addHandle, ← h.bind_provenance? hnew]
    simp only [Option.some.injEq, Standing.mk.injEq]
    refine ⟨rfl, rfl, Option.bind_congr fun name hname => ?_⟩
    simp only [if_pos hname]
    rfl
  · rename_i hne
    refine standing?_congr ?_ fun handle hfound => ?_
    · rw [created, handle?_tell, handle?_addHandle_of_ne hne]
    · have htarget : (store.addHandle form slot).target? s = store.target? s := by
        rw [target?_eq_bind, handle?_addHandle_of_ne hne, target?_eq_bind]
        simp only [nameAt?_congr referents_addHandle]
      rw [created, origin?_tell, htarget, origin?]
      refine Option.bind_congr fun name hname => Option.bind_congr fun referent _ => ?_
      have hstays : provenance ≠ .moved s := by
        intro heq
        rw [hmoved s heq] at hname
        cases hname
      split
      · simp [Referent.provenance?_receiveAll_messages, hne, hstays]
      · rfl

/-- A handle that is created anew or as a copy appears in the census of a consistent store. -/
theorem Consistent.census_created (h : store.Consistent config)
    (hfresh : ∀ source, provenance ≠ .moved source) :
    (store.created config form slot provenance).census =
      store.census.create config form slot provenance :=
  h.toWellFormed.census_created (fun hlists _ hmem => h.provenance?_eq_none hlists hmem)
    fun source hmoved => absurd hmoved (hfresh source)

/-! ## Exchange -/

/-- An exchange of two handles leaves all others as they are. -/
theorem handle?_swapped_of_ne (hnodup : store.serials.Nodup) (ha : store.handle? a = some first)
    (hb : store.handle? b = some second) (hsa : s ≠ a) (hsb : s ≠ b) :
    (store.swapped config a b).handle? s = store.handle? s := by
  rw [handle?, handles_swapped, ← handle?]
  cases hfound : store.handle? s with
  | none =>
    rw [handle?_eq_none_iff, serials_exchangeSlots]
    exact handle?_eq_none_iff.mp hfound
  | some handle => exact handle?_exchangeSlots_of_ne hnodup ha hb hfound hsa hsb

/-- Referents are found as before when handles have exchanged their contents. -/
theorem referent?_exchangeSlots :
    (store.exchangeSlots a b).referent? name = store.referent? name := by
  rw [referent?, referents_exchangeSlots, referent?]

/-- Handles that exchange a referent for the same one keep their entries. -/
theorem WellFormed.origin?_swapped_of_same (h : store.WellFormed)
    (ha : store.handle? a = some first) (hb : store.handle? b = some second)
    (hsame : store.nameAt? second.slot = store.nameAt? first.slot) :
    (store.swapped config a b).origin? s = store.origin? s := by
  obtain ⟨hmine, htheirs⟩ := target?_exchangeSlots h ha hb
  have hexchanged : store.swapped config a b = store.exchangeSlots a b := by
    simp only [swapped, hmine, htheirs, if_pos hsame]
  have htarget : (store.swapped config a b).target? s = store.target? s := by
    rw [h.target?_swapped ha hb, target?_of_handle? ha, target?_of_handle? hb, hsame]
    split
    · rename_i hserial
      rw [hserial, target?_of_handle? ha]
    split
    · rename_i hserial
      rw [hserial, target?_of_handle? hb, hsame]
    · rfl
  simp only [origin?, htarget]
  rw [hexchanged]
  simp only [referent?_exchangeSlots]

/-- When two handles exchange different referents, each of these is told of the handle that comes to
hold it. -/
theorem WellFormed.origin?_swapped_of_told (h : store.WellFormed)
    (ha : store.handle? a = some first) (hb : store.handle? b = some second)
    (hdiffer : store.nameAt? second.slot ≠ store.nameAt? first.slot) :
    (store.swapped config a b).origin? s =
      ((store.swapped config a b).target? s).bind fun name =>
        (store.referent? name).bind fun referent =>
          (if store.nameAt? first.slot = some name then
            referent.receiveAll config (Provenance.messages b (.moved a))
            else if store.nameAt? second.slot = some name then
              referent.receiveAll config (Provenance.messages a (.moved b))
            else referent).roster.provenance? s := by
  obtain ⟨hmine, htheirs⟩ := target?_exchangeSlots h ha hb
  rw [origin?]
  refine Option.bind_congr fun name _ => ?_
  simp only [Store.swapped, hmine, htheirs, if_neg hdiffer, referent?_tell,
    referent?_exchangeSlots, Option.bind_map]
  refine Option.bind_congr fun referent _ => ?_
  grind [Provenance.messages]

/-- Handles that exchange one referent for another are entered anew. -/
theorem Consistent.origin?_swapped_of_ne (h : store.Consistent config)
    (ha : store.handle? a = some first) (hb : store.handle? b = some second)
    (hdiffer : store.nameAt? second.slot ≠ store.nameAt? first.slot) :
    (store.swapped config a b).origin? s =
      if s = a then store.census.entry? config second.slot (.moved b)
      else if s = b then store.census.entry? config first.slot (.moved a)
      else store.origin? s := by
  have hnew : ∀ s, config.listsHolders = false → ∀ referent ∈ store.referents,
      referent.roster.provenance? s = none :=
    fun _ hlists _ hmem => h.provenance?_eq_none hlists hmem
  rw [h.toWellFormed.origin?_swapped_of_told ha hb hdiffer, h.target?_swapped ha hb,
    target?_of_handle? ha, target?_of_handle? hb]
  split
  · rename_i hserial
    subst hserial
    rw [← h.bind_provenance? (hnew s)]
    refine Option.bind_congr fun name hname => ?_
    have hother : store.nameAt? first.slot ≠ some name := hname ▸ Ne.symm hdiffer
    simp only [if_neg hother, if_pos hname]
  split
  · rename_i hserial
    subst hserial
    rw [← h.bind_provenance? (hnew s)]
    refine Option.bind_congr fun name hname => ?_
    simp only [if_pos hname]
  · rename_i hsa hsb
    refine Option.bind_congr fun name hname => Option.bind_congr fun referent _ => ?_
    split
    · simp [Referent.provenance?_receiveAll_messages, hsb, Ne.symm hsa]
    split
    · simp [Referent.provenance?_receiveAll_messages, hsa, Ne.symm hsb]
    · rfl

/-- Handles that exchange what they hold appear in the census with each other's content. -/
theorem Consistent.census_swapped (h : store.Consistent config)
    (ha : store.handle? a = some first) (hb : store.handle? b = some second) :
    (store.swapped config a b).census = store.census.exchange config a b := by
  have hground : (store.swapped config a b).referents.map Referent.bare =
      store.referents.map Referent.bare := by
    simp only [Store.swapped]
    split <;> simp
  obtain ⟨hfirst, hsecond⟩ := @handle?_swapped config _ _ _ _ _ h.nodup_serials ha hb
  rw [Census.exchange_of_standing? (standing?_of_handle? ha) (standing?_of_handle? hb)]
  refine Census.ext nextSerial_swapped hground (funext fun s => ?_)
  simp only [standing?_census, Census.standing?_put, Census.given, nameAt?_census]
  split
  · rename_i hserial
    subst hserial
    rw [standing?_of_handle? hsecond]
    by_cases hsame : store.nameAt? second.slot = store.nameAt? first.slot
    · rw [if_pos hsame.symm, h.origin?_swapped_of_same ha hb hsame]
    · have hne : s ≠ a := by
        rintro rfl
        obtain rfl : first = second := Option.some.inj (ha.symm.trans hb)
        exact hsame rfl
      rw [if_neg (Ne.symm hsame), h.origin?_swapped_of_ne ha hb hsame, if_neg hne, if_pos rfl]
  split
  · rename_i hserial
    subst hserial
    rw [standing?_of_handle? hfirst]
    by_cases hsame : store.nameAt? second.slot = store.nameAt? first.slot
    · rw [if_pos hsame, h.origin?_swapped_of_same ha hb hsame]
    · rw [if_neg hsame, h.origin?_swapped_of_ne ha hb hsame, if_pos rfl]
  · rename_i hsb hsa
    refine standing?_congr (handle?_swapped_of_ne h.nodup_serials ha hb hsa hsb) fun _ _ => ?_
    by_cases hsame : store.nameAt? second.slot = store.nameAt? first.slot
    · exact h.origin?_swapped_of_same ha hb hsame
    · rw [h.origin?_swapped_of_ne ha hb hsame, if_neg hsa, if_neg hsb]

/-! ## Release and change of form -/

/-- A handle that is taken out is gone, and all others stand as before. -/
theorem census_removeHandle : (store.removeHandle a).census = store.census.put a none := by
  refine Census.ext rfl rfl (funext fun s => ?_)
  rw [Census.standing?_put, standing?_census, standing?_census]
  split
  · rename_i hserial
    have hnone : (store.removeHandle a).handle? a = none := by simp [handle?_eq_none_iff]
    rw [hserial, standing?, hnone, Option.map_none]
  · rename_i hne
    refine standing?_congr (handle?_removeHandle hne) fun _ _ => ?_
    rw [origin?, target?_removeHandle, if_neg hne]
    rfl

/-- A handle that is released is gone, and all others stand as before. -/
theorem census_released : (store.released config a).census = store.census.put a none := by
  rw [← census_removeHandle]
  refine Census.ext (by simp [released]) ground_tell (funext fun s => ?_)
  refine standing?_congr (by simp [released]) fun handle hfound => ?_
  have hne : s ≠ a := by
    rintro rfl
    have hmem := mem_serials_of_handle? hfound
    simp at hmem
  rw [released, origin?_tell, origin?]
  refine Option.bind_congr fun name _ => Option.bind_congr fun referent _ => ?_
  split
  · exact Referent.provenance?_receiveAll_leave hne
  · rfl

/-- A handle that is emptied has no origin any more, and all others stand as before. -/
theorem census_setSlot_null (hnodup : store.serials.Nodup)
    (hfound : store.handle? a = some handle) :
    (store.setSlot a (Slot.null scheme)).census =
      store.census.put a (some ⟨handle.form, Slot.null scheme, none⟩) := by
  refine Census.ext rfl rfl (funext fun s => ?_)
  rw [Census.standing?_put, standing?_census, standing?_census]
  split
  · rename_i hserial
    rw [hserial, standing?_of_handle? (handle?_setSlot hnodup hfound), origin?,
      target?_setSlot_null hnodup, if_pos rfl, if_pos rfl, Option.bind_none]
  · rename_i hne
    refine standing?_congr ?_ fun _ _ => ?_
    · cases hother : store.handle? s with
      | none =>
        rw [handle?_eq_none_iff, serials_setSlot]
        exact handle?_eq_none_iff.mp hother
      | some other => rw [handle?_setSlot hnodup hother, if_neg hne]
    · rw [origin?, target?_setSlot_null hnodup, if_neg hne]
      rfl

/-- A pointer that becomes a reference is emptied and a reference takes over from it. -/
theorem Consistent.census_madeReference (h : store.Consistent config)
    (hfound : store.handle? handle.serial = some handle) (hform : handle.form = .pointer) :
    (store.madeReference config handle).census =
      (store.census.put handle.serial (some ⟨.pointer, Slot.null handle.scheme, none⟩)).create
        config .reference handle.slot (.moved handle.serial) := by
  have hvacant : ({ handle with slot := Slot.null handle.scheme } : Handle).Settled store :=
    Or.inl ⟨hform, Slot.target?_null _⟩
  have hemptied : (store.setSlot handle.serial (Slot.null handle.scheme)).WellFormed :=
    h.setSlot hfound hvacant
  refine (hemptied.addEvent.census_created (fun hlists _ hmem =>
    h.provenance?_eq_none hlists hmem) ?_).trans ?_
  · rintro source hsource
    cases hsource
    exact (target?_setSlot_null h.nodup_serials).trans (if_pos rfl)
  · rw [census_addEvent, census_setSlot_null h.nodup_serials hfound, hform]

/-- A reference that becomes a pointer goes and a pointer takes over from it. -/
theorem Consistent.census_madePointer (h : store.Consistent config) :
    (store.madePointer config handle).census =
      (store.census.put handle.serial none).create config .pointer handle.slot
        (.moved handle.serial) := by
  have hgone : (store.removeHandle handle.serial).WellFormed := h.removeHandle
  refine (hgone.addEvent.census_created (fun hlists _ hmem =>
    h.provenance?_eq_none hlists hmem) ?_).trans ?_
  · rintro source hsource
    cases hsource
    exact target?_removeHandle.trans (if_pos rfl)
  · rw [census_addEvent, census_removeHandle]

end Store

end CountedHandles
