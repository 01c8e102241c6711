import CountedHandles.Proofs.Destruction
import CountedHandles.Proofs.Renewal

/-!
# Views of a store

A plain view of a store leaves out what only serves diagnostics: the rosters, and the events of
notices. The whole view leaves out nothing. What acts do to a store looks in either view as if they
had been done to the view, in a configuration that asserts nothing and, for the plain view, does not
track handles.
-/

namespace CountedHandles

/-- How much of a store is seen. -/
inductive View where
  /-- Everything. -/
  | whole
  /-- All but what only serves diagnostics. -/
  | plain
deriving DecidableEq

/-- Whether an event only serves diagnostics. -/
def Event.isDiagnostic : Event → Bool
  | .created _ => false
  | .call ⟨_, .notice _⟩ _ => true
  | .call _ _ => false
  | .log (.following _) => true
  | .log _ => false

namespace View

/-- Whether an event is seen. -/
def shows : View → Event → Bool
  | .whole, _ => true
  | .plain, event => !event.isDiagnostic

/-- The configuration that has to do with what is seen: it asserts nothing, and in a plain view it
tracks no handles. -/
def config (view : View) (config : Config) : Config :=
  match view with
  | .whole => { config with build := ⟨config.build.tracking, false⟩ }
  | .plain =>
    ⟨⟨false, false⟩, { config.kind with keepsRoster := true, showsCalls := false }, config.log⟩

/-- What is seen of a referent. -/
def referent (view : View) (referent : Referent) : Referent :=
  match view with
  | .whole => referent
  | .plain => { referent with roster := .empty }

/-- What is seen of a store. -/
def store (view : View) (store : Store) : Store :=
  { store with
    referents := store.referents.map view.referent
    events := store.events.filter view.shows }

/-- What is seen of a violation. -/
def violation (view : View) (violation : Violation) : Violation :=
  match view with
  | .whole => violation
  | .plain => { violation with registered := [] }

variable {view : View} {config : Config} {store : Store} {referent : Referent} {s : Serial}
  {form : Form} {slot : Slot} {scheme : Scheme} {provenance : Provenance} {handle : Handle}
  {name : String} {name? : Option String} {message : Message} {messages : List Message}
  {address : Address} {entry : LogRecord} {a b : Serial}

/-! ## What every view shows -/

@[simp] theorem name_referent : (view.referent referent).name = referent.name := by
  cases view <;> rfl

@[simp] theorem address_referent : (view.referent referent).address = referent.address := by
  cases view <;> rfl

@[simp] theorem links_referent : (view.referent referent).links = referent.links := by
  cases view <;> rfl

@[simp] theorem count_referent : (view.referent referent).count = referent.count := by
  cases view <;> rfl

@[simp] theorem value_referent : (view.referent referent).value = referent.value := by
  cases view <;> rfl

@[simp] theorem handles_store : (view.store store).handles = store.handles := rfl

@[simp] theorem nextSerial_store : (view.store store).nextSerial = store.nextSerial := rfl

@[simp] theorem handle?_store : (view.store store).handle? s = store.handle? s := rfl

@[simp] theorem checksFirst_config :
    (view.config config).kind.checksFirst = config.kind.checksFirst := by
  cases view <;> rfl

@[simp] theorem offers_config :
    (view.config config).kind.offers address = config.kind.offers address := by
  cases view <;> rfl

@[simp] theorem log_config : (view.config config).log = config.log := by
  cases view <;> rfl

/-- A referent is seen under its name. -/
@[simp] theorem referent?_store :
    (view.store store).referent? name = (store.referent? name).map view.referent := by
  apply find?_key_map
  exact fun _ => name_referent

/-- A referent is seen where it lies. -/
@[simp] theorem referentAt?_store :
    (view.store store).referentAt? address = (store.referentAt? address).map view.referent := by
  apply find?_key_map
  exact fun _ => address_referent

@[simp] theorem targetOf?_store :
    (view.store store).targetOf? handle = (store.targetOf? handle).map view.referent := by
  rw [Store.targetOf?, Store.targetOf?]
  cases handle.slot.target? with
  | none => rfl
  | some address => exact referentAt?_store

@[simp] theorem nameAt?_store : (view.store store).nameAt? slot = store.nameAt? slot := by
  rw [Store.nameAt?, Store.nameAt?]
  cases slot.target? with
  | none => rfl
  | some address =>
    rw [Option.bind_some, Option.bind_some, referentAt?_store, Option.map_map]
    congr 1
    funext referent
    exact name_referent

@[simp] theorem target?_store : (view.store store).target? s = store.target? s := by
  cases hfound : store.handle? s with
  | none =>
    rw [Store.target?_of_handle?_eq_none hfound]
    exact Store.target?_of_handle?_eq_none hfound
  | some handle =>
    have hseen : (view.store store).handle? s = some handle := hfound
    rw [Store.target?_of_handle? hfound, Store.target?_of_handle? hseen, nameAt?_store]

@[simp] theorem names_store : (view.store store).names = store.names := by
  apply map_key_map
  exact fun _ => name_referent

@[simp] theorem sites_store : (view.store store).sites = store.sites := by
  apply map_key_map
  exact fun _ => address_referent

/-- A handle is seen to be settled if it is. -/
@[simp] theorem settled_store : handle.Settled (view.store store) ↔ handle.Settled store := by
  simp [Handle.Settled]

/-! ## What is seen of acts -/

/-- A referent is seen to receive a call as its view would receive it. -/
theorem referent_receive : view.referent (referent.receive config message) =
    (view.referent referent).receive (view.config config) message := by
  cases view with
  | whole => cases message <;> rfl
  | plain =>
    cases message with
    | increment => rfl
    | decrement => rfl
    | notice notice =>
      simp only [Referent.receive, Config.listsHolders, View.config, Bool.false_and,
        Bool.false_eq_true, if_false]
      exact (apply_ite View.plain.referent _ _ _).trans (ite_self _)

/-- The events of a call are seen as those of a call in the other configuration. -/
theorem filter_shows_eventsOf {call : Call} {handles : List Handle} :
    (config.eventsOf call handles).filter view.shows =
      (view.config config).eventsOf call handles := by
  obtain ⟨name, message⟩ := call
  cases view with
  | whole => exact List.filter_eq_self.mpr fun _ _ => rfl
  | plain =>
    cases message with
    | increment => rfl
    | decrement => rfl
    | notice notice =>
      cases htracking : config.build.tracking <;> cases hkeeps : config.kind.keepsRoster <;>
        simp [Config.eventsOf, View.config, htracking, hkeeps, shows, Event.isDiagnostic]

theorem store_receive : view.store (store.receive config name message) =
    (view.store store).receive (view.config config) name message := by
  simp only [View.store, Store.receive, List.map_map, List.filter_append, filter_shows_eventsOf]
  congr 1
  refine List.map_congr_left fun referent _ => ?_
  simp only [Function.comp_apply, name_referent]
  split
  · exact referent_receive
  · rfl

theorem store_tell : view.store (store.tell config name? messages) =
    (view.store store).tell (view.config config) name? messages := by
  cases name? with
  | none => rfl
  | some name =>
    induction messages generalizing store with
    | nil => rfl
    | cons message messages ih => rw [Store.tell_cons, ih, store_receive, Store.tell_cons]

theorem store_addHandle :
    view.store (store.addHandle form slot) = (view.store store).addHandle form slot := by
  cases view <;> simp [View.store, Store.addHandle, Store.nextHandle, shows, Event.isDiagnostic]

theorem store_created : view.store (store.created config form slot provenance) =
    (view.store store).created (view.config config) form slot provenance := by
  rw [Store.created, store_tell, store_addHandle, Store.created, nameAt?_store, nextSerial_store]

theorem store_exchangeSlots :
    view.store (store.exchangeSlots a b) = (view.store store).exchangeSlots a b := by
  simp only [Store.exchangeSlots, handle?_store]
  cases store.handle? a <;> cases store.handle? b <;> rfl

theorem store_swapped : view.store (store.swapped config a b) =
    (view.store store).swapped (view.config config) a b := by
  simp only [Store.swapped, ← store_exchangeSlots, target?_store]
  split
  · rfl
  · rw [store_tell, store_tell]

theorem store_released : view.store (store.released config s) =
    (view.store store).released (view.config config) s := by
  rw [Store.released, store_tell, Store.released, target?_store]
  rfl

theorem store_releasedAll {serials : List Serial} :
    view.store (store.releasedAll config serials) =
      (view.store store).releasedAll (view.config config) serials := by
  induction serials generalizing store with
  | nil => rfl
  | cons serial rest ih => rw [Store.releasedAll_cons, ih, store_released, Store.releasedAll_cons]

theorem store_reassigned : view.store (store.reassigned config a b) =
    (view.store store).reassigned (view.config config) a b := by
  rw [Store.reassigned, store_released, store_swapped, Store.reassigned]

theorem store_renewed : view.store (store.renewed config s form slot provenance) =
    (view.store store).renewed (view.config config) s form slot provenance := by
  rw [Store.renewed, store_reassigned, store_created, Store.renewed, nextSerial_store]

theorem store_movedOut : view.store (store.movedOut config scheme s) =
    (view.store store).movedOut (view.config config) scheme s := by
  rw [Store.movedOut, store_swapped, store_created, Store.movedOut, nextSerial_store]

/-- A record about a handle is seen in every view. -/
theorem store_addEvent_log (hentry : ∀ notice, entry ≠ .following notice) :
    view.store (store.addEvent (.log entry)) = (view.store store).addEvent (.log entry) := by
  have hshown : view.shows (.log entry) = true := by
    cases view with
    | whole => rfl
    | plain =>
      cases entry with
      | releasing address form => rfl
      | reclaiming address => rfl
      | following notice => exact absurd rfl (hentry notice)
  simp [View.store, Store.addEvent, hshown]

theorem store_vacated : view.store (store.vacated config handle) =
    (view.store store).vacated (view.config config) handle := by
  rw [Store.vacated, store_renewed, store_released, store_movedOut,
    store_addEvent_log (by simp), Store.vacated, nextSerial_store]

theorem store_madeReference : view.store (store.madeReference config handle) =
    (view.store store).madeReference (view.config config) handle := by
  rw [Store.madeReference, store_created, store_addEvent_log (by simp), Store.madeReference]
  rfl

theorem store_madePointer : view.store (store.madePointer config handle) =
    (view.store store).madePointer (view.config config) handle := by
  rw [Store.madePointer, store_created, store_addEvent_log (by simp), Store.madePointer]
  rfl

theorem store_checkpoint : view.store (store.checkpoint config referent) =
    (view.store store).checkpoint (view.config config) (view.referent referent) := by
  rw [Store.checkpoint, Store.checkpoint, checksFirst_config, links_referent]
  split
  · rfl
  · exact store_releasedAll

theorem store_removeReferent :
    view.store (store.removeReferent name) = (view.store store).removeReferent name := by
  simp only [View.store, Store.removeReferent, List.filter_map]
  congr 2
  refine List.filter_congr fun referent _ => ?_
  simp

theorem store_addReferent {value : Int64} : view.store (store.addReferent name address value) =
    (view.store store).addReferent name address value := by
  cases view <;> simp [View.store, Store.addReferent, View.referent]

/-- A change of a referent is seen as a change of what is seen of it. -/
theorem store_updateReferent {change change' : Referent → Referent}
    (h : ∀ referent, view.referent (change referent) = change' (view.referent referent)) :
    view.store (store.updateReferent name change) =
      (view.store store).updateReferent name change' := by
  simp only [View.store, Store.updateReferent, List.map_map]
  congr 1
  apply List.map_congr_left
  intro referent _
  simp only [Function.comp_apply, name_referent]
  split
  · apply h
  · rfl

theorem store_destroyed : view.store (store.destroyed config referent) =
    (view.store store).destroyed (view.config config) (view.referent referent) := by
  rw [Store.destroyed, store_removeReferent, store_releasedAll, Store.destroyed, name_referent,
    links_referent]

theorem violationOf?_store :
    (view.store store).violationOf? name = (store.violationOf? name).map view.violation := by
  rw [Store.violationOf?, referent?_store, Store.violationOf?]
  cases store.referent? name with
  | none => rfl
  | some referent =>
    simp only [Option.map_some, Option.bind_some, Referent.violation?, count_referent]
    split
    · rfl
    · cases view <;> rfl

/-! ## Consistent views -/

/-- The view of a consistent store is consistent in the configuration that has to do with it. -/
theorem consistent_store (h : store.Consistent config) :
    (view.store store).Consistent (view.config config) where
  toWellFormed := h.toWellFormed.congr rfl rfl names_store sites_store
  reflects := by
    intro seen hmem
    obtain ⟨referent, hreferent, rfl⟩ := List.mem_map.mp hmem
    have hreflects := h.reflects referent hreferent
    constructor
    · rw [count_referent, address_referent]
      exact hreflects.count_eq
    · intro serial
      rw [address_referent]
      cases view with
      | whole => exact hreflects.contains_iff serial
      | plain => simp [View.referent, View.config, Config.listsHolders]

end View

end CountedHandles
