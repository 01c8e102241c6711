import CountedHandles.Proofs.Registration
import CountedHandles.Proofs.Transfers

/-!
# Relays

A value can be passed on any number of times. Its referent is told which handle holds it now, but it
is not told to count. This file follows one value through a chain of handles, only the last of which
holds it in the end.
-/

namespace CountedHandles

/-- Calls may have been made on the way from one store to another, but no count has been touched. -/
structure Store.KeepsCounts (before after : Store) : Prop where
  /-- No call changes a count. -/
  quiet : ∃ sent, after.events = before.events ++ sent ∧
    ∀ call moment, .call call moment ∈ sent → call.message.recounts = false
  /-- The counts are the same. -/
  count_eq : ∀ name, (after.referent? name).map Referent.count =
    (before.referent? name).map Referent.count

/-- A referent that hears nothing about counts keeps its count. -/
theorem Referent.count_hear_of_quiet {config : Config} {referent : Referent} {events : List Event}
    (hquiet : ∀ call moment, .call call moment ∈ events → call.message.recounts = false) :
    (referent.hear config events).count = referent.count := by
  refine count_receiveAll_eq fun message hmem => ?_
  obtain ⟨moment, hcall⟩ := Event.mem_filterMap_messageTo?.mp hmem
  exact hquiet _ _ hcall

namespace Store

variable {config : Config} {before store between after : Store} {sent : List Event}
  {handle : Handle} {form : Form} {s : Serial} {entry : LogRecord} {left? : Option Handle}

namespace KeepsCounts

/-- A store that stays as it is keeps its counts. -/
theorem refl : store.KeepsCounts store :=
  ⟨⟨[], (List.append_nil _).symm, fun _ _ hmem => absurd hmem List.not_mem_nil⟩, fun _ => rfl⟩

/-- Counts that are kept on two ways are kept on both together. -/
theorem trans (h : before.KeepsCounts between) (hnext : between.KeepsCounts after) :
    before.KeepsCounts after := by
  obtain ⟨⟨sent, hsent, hquiet⟩, hcount⟩ := h
  obtain ⟨⟨later, hlater, hquietLater⟩, hcountLater⟩ := hnext
  refine ⟨⟨sent ++ later, by rw [hlater, hsent, List.append_assoc], fun call moment hmem => ?_⟩,
    fun name => (hcountLater name).trans (hcount name)⟩
  exact (List.mem_append.mp hmem).elim (hquiet call moment) (hquietLater call moment)

/-- Deliveries that do not concern counts keep them. -/
theorem of_delivers (h : Delivers config before sent after)
    (hquiet : ∀ call moment, .call call moment ∈ sent → call.message.recounts = false) :
    before.KeepsCounts after := by
  refine ⟨⟨sent, h.events_eq, hquiet⟩, fun name => ?_⟩
  rw [h.referent?_eq, Option.map_map]
  exact Option.map_congr fun _ _ => Referent.count_hear_of_quiet hquiet

/-- A value that is moved out keeps all counts. -/
theorem movedOut : store.KeepsCounts (store.movedOut config handle.scheme handle.serial) := by
  obtain ⟨sent, hdelivers, hcalls⟩ := @Delivers.movedOut config store handle.scheme handle.serial
  exact of_delivers hdelivers fun call moment hmem => (hcalls call moment hmem).quiet.2

/-- Handles that exchange their contents keep all counts. -/
theorem swapped {a b : Serial} : store.KeepsCounts (store.swapped config a b) := by
  obtain ⟨sent, hdelivers, hcalls⟩ := @Delivers.swapped config store a b
  exact of_delivers hdelivers fun call moment hmem => (hcalls call moment hmem).quiet.2

/-- A new handle that takes over from another one keeps all counts. -/
theorem takenOver {slot : Slot} (hevents : between.events = store.events ++ [.log entry])
    (hreferents : between.referents = store.referents) :
    store.KeepsCounts (between.created config form slot (.moved s)) := by
  have hlogged : Delivers config store [.log entry] between :=
    .of_silent hevents hreferents (by simp [Event.call?])
  refine of_delivers (hlogged.trans .created) fun call moment hmem => ?_
  obtain ⟨-, -, hmessage⟩ := Config.mem_told (List.mem_of_ne_of_mem (by simp)
    (List.mem_of_ne_of_mem (by simp) hmem))
  rw [List.mem_singleton.mp hmessage]
  rfl

/-- A handle that holds no referent keeps all counts when it is released. -/
theorem released (hvacant : store.target? s = none) :
    store.KeepsCounts (store.released config s) := by
  have hreleased := @Delivers.released config store s
  rw [hvacant] at hreleased
  exact of_delivers hreleased fun _ _ hmem => absurd hmem List.not_mem_nil

/-- A referent that changes in a way that no handle depends on keeps its count. -/
theorem updateReferent {name : String} {change : Referent → Referent}
    (hchange : Unobtrusive change) : store.KeepsCounts (store.updateReferent name change) := by
  refine ⟨⟨[], (List.append_nil _).symm, fun _ _ hmem => absurd hmem List.not_mem_nil⟩,
    fun other => ?_⟩
  rw [referent?_updateReferent hchange.name_eq, Option.map_map]
  refine Option.map_congr fun referent _ => ?_
  rw [Function.comp_apply]
  split
  · exact hchange.count_eq referent
  · rfl

end KeepsCounts

end Store

/-! ## Chains of handles -/

/-- The ways to pass a value from a handle to a new one. -/
inductive Hop where
  /-- From a pointer to a pointer. -/
  | moveOut
  /-- From a pointer to a reference. -/
  | toReference
  /-- From a reference to a pointer. -/
  | toPointer

namespace Hop

/-- The form of the handle that passes the value on. -/
def takes : Hop → Form
  | .moveOut => .pointer
  | .toReference => .pointer
  | .toPointer => .reference

/-- The form of the new handle. -/
def gives : Hop → Form
  | .moveOut => .pointer
  | .toReference => .reference
  | .toPointer => .pointer

/-- Passes the value of a handle on. -/
def run (config : Config) : Hop → Handle → Operation Serial
  | .moveOut => Handle.moveOut config
  | .toReference => Handle.toReference config
  | .toPointer => Handle.toPointer config

/-- Each hop takes a handle of the form that is there. -/
def Fit : Form → List Hop → Prop
  | _, [] => True
  | form, hop :: rest => hop.takes = form ∧ Fit hop.gives rest

end Hop

/-- Passes the value of a handle on from one new handle to the next, and names all handles that have
had it, in order. -/
def Handle.relay (config : Config) : List Hop → Handle → Operation (List Handle)
  | [], handle => return [handle]
  | hop :: rest, handle => do
    let serial ← hop.run config handle
    let later ← relay config rest ⟨serial, hop.gives, handle.slot⟩
    return handle :: later

namespace Store

/-- A store in which a handle has passed its value on to a new one. -/
structure HandsOn (config : Config) (store : Store) (handle : Handle) (form : Form)
    (after : Store) : Prop where
  /-- The new handle has the value, and the old one is empty or gone. -/
  becomes : ∃ left?, (∀ left : Handle, left? = some left → left.address = Address.null) ∧
    store.Becomes config (Function.update (Function.update store.handle? store.nextSerial
      (some (store.nextHandle form handle.slot))) handle.serial left?) after
  /-- One serial number has been spent. -/
  nextSerial_eq : after.nextSerial = store.nextSerial + 1
  /-- No count has been touched. -/
  keepsCounts : store.KeepsCounts after

/-- A store in which a value has been passed on along a chain of handles. -/
structure RelaysTo (config : Config) (store : Store) (handle : Handle) (earlier : List Handle)
    (last : Handle) (after : Store) : Prop where
  /-- Every referent knows which handles hold it. -/
  consistent : after.Consistent config
  /-- The referents are as before apart from that. -/
  ground_eq : after.referents.map Referent.bare = store.referents.map Referent.bare
  /-- No count has been touched. -/
  keepsCounts : store.KeepsCounts after
  /-- The last handle has the value. -/
  slot_eq : last.slot = handle.slot
  /-- The last handle is there. -/
  found : after.handle? last.serial = some last
  /-- No earlier handle holds the referent any more. -/
  not_holds : ∀ old ∈ earlier, ¬ after.Holds old.serial handle.address
  /-- All handles that are not concerned are as before. -/
  handle?_eq : ∀ s < store.nextSerial, s ≠ handle.serial → after.handle? s = store.handle? s

variable {config : Config} {store after : Store} {handle : Handle} {hop : Hop}

/-- A handle can pass on what it holds in every way that is for handles of its form, except that
only a referent can be passed on to a reference. -/
theorem Consistent.handsOn (h : store.Consistent config)
    (hfound : store.handle? handle.serial = some handle) (hform : hop.takes = handle.form)
    (hsite : hop.gives = .reference → handle.address ∈ store.sites) :
    ∃ after, hop.run config handle store = .ok store.nextSerial after ∧
      store.HandsOn config handle hop.gives after := by
  have hempty : ∀ left : Handle,
      some { handle with slot := Slot.null handle.scheme } = some left →
        left.address = Address.null := by
    rintro left hleft
    obtain rfl := Option.some.inj hleft
    exact Slot.address_null _
  cases hop with
  | moveOut =>
    have hbecomes := Becomes.movedOut h hfound hform.symm
    have hnew : store.nextHandle handle.form handle.slot =
        store.nextHandle Hop.moveOut.gives handle.slot := by rw [← hform]; rfl
    rw [hnew] at hbecomes
    refine ⟨_, Handle.run_moveOut h hfound, ⟨_, hempty, hbecomes⟩, ?_, .movedOut⟩
    rw [movedOut, nextSerial_swapped, nextSerial_created]
  | toReference =>
    refine ⟨_, Handle.run_toReference h hfound hform.symm (hsite rfl),
      ⟨_, hempty, Becomes.madeReference h hfound hform.symm (hsite rfl)⟩, ?_, .takenOver rfl rfl⟩
    rw [Store.madeReference, nextSerial_created]
    rfl
  | toPointer =>
    refine ⟨_, Handle.run_toPointer h hfound,
      ⟨none, by simp, Becomes.madePointer h hfound hform.symm⟩, ?_, .takenOver rfl rfl⟩
    rw [Store.madePointer, nextSerial_created]
    rfl

/-- A value that is with the heir of a handle is passed on along the rest of the chain. -/
theorem RelaysTo.cons {heir last : Handle} {earlier : List Handle} {between : Store}
    (h : store.Consistent config) (hfound : store.handle? handle.serial = some handle)
    (hsite : handle.address ∈ store.sites) (hhands : store.HandsOn config handle heir.form between)
    (hheir : heir = store.nextHandle heir.form handle.slot)
    (hrelays : between.RelaysTo config heir earlier last after) :
    store.RelaysTo config handle (handle :: earlier) last after := by
  obtain ⟨left?, hleft, hbecomes⟩ := hhands.becomes
  have hserial : heir.serial = store.nextSerial := by rw [hheir]; rfl
  have hslot : heir.slot = handle.slot := by rw [hheir]; rfl
  -- The rest of the chain concerns only the heir and newer handles, so all older ones stay as the
  -- first hop has left them.
  have hkeeps : ∀ s < store.nextSerial, after.handle? s = between.handle? s := fun s hlt =>
    hrelays.handle?_eq s (by rw [hhands.nextSerial_eq]; exact Nat.lt_succ_of_lt hlt)
      (by rw [hserial]; exact Nat.ne_of_lt hlt)
  have hold : handle.serial < store.nextSerial :=
    h.serial_lt _ (mem_serials_of_handle? hfound)
  refine ⟨hrelays.consistent, hrelays.ground_eq.trans hbecomes.ground_eq,
    hhands.keepsCounts.trans hrelays.keepsCounts, hrelays.slot_eq.trans hslot, hrelays.found,
    ?_, fun s hlt hne => ?_⟩
  · rintro old hmem hholds
    rcases List.mem_cons.mp hmem with rfl | hmem
    · obtain ⟨left, hleftFound, haddress⟩ :=
        (holds_iff_handle? hrelays.consistent.nodup_serials).mp hholds
      rw [hkeeps _ hold, hbecomes.handle?_eq, Function.update_self] at hleftFound
      rw [hleft left hleftFound] at haddress
      exact Slot.ne_null_of_isSite (h.isSite _ hsite) haddress.symm
    · have hsame : heir.address = handle.address := congrArg Slot.address hslot
      exact hrelays.not_holds old hmem (hsame ▸ hholds)
  · rw [hkeeps s hlt, hbecomes.handle?_eq, Function.update_of_ne hne,
      Function.update_of_ne (Nat.ne_of_lt hlt)]

/-- A handle that holds a referent can pass it on along any chain of handles whose forms fit. -/
theorem Consistent.exists_relay {hops : List Hop} (h : store.Consistent config)
    (hfound : store.handle? handle.serial = some handle) (hsite : handle.address ∈ store.sites)
    (hfit : Hop.Fit handle.form hops) :
    ∃ earlier last after, Handle.relay config hops handle store = .ok (earlier ++ [last]) after ∧
      earlier.length = hops.length ∧ store.RelaysTo config handle earlier last after := by
  induction hops generalizing store handle with
  | nil =>
    exact ⟨[], handle, store, rfl, rfl, h, rfl, .refl, rfl, hfound,
      fun _ hmem => absurd hmem List.not_mem_nil, fun _ _ _ => rfl⟩
  | cons hop rest ih =>
    obtain ⟨hform, hrest⟩ := hfit
    obtain ⟨between, hrun, hhands⟩ := h.handsOn hfound hform fun _ => hsite
    obtain ⟨left?, -, hbecomes⟩ := hhands.becomes
    have hne := h.ne_nextSerial hfound
    have hsites : between.sites = store.sites := sites_of_ground hbecomes.ground_eq
    have hheir : between.handle? store.nextSerial =
        some (store.nextHandle hop.gives handle.slot) := by
      rw [hbecomes.handle?_eq, Function.update_of_ne hne.symm, Function.update_self]
    obtain ⟨earlier, last, after, hrelay, hlength, hrelays⟩ := @ih between
      (store.nextHandle hop.gives handle.slot) hbecomes.consistent hheir
      (by rw [hsites]; exact hsite) hrest
    refine ⟨handle :: earlier, last, after, ?_, by simp [hlength],
      .cons h hfound hsite hhands rfl hrelays⟩
    exact (Operation.run_bind_of_ok hrun).trans (Operation.run_bind_of_ok hrelay)

/-- In the end of a chain of handles the referent that they have passed on lists the last one once
and the earlier ones not at all. -/
theorem RelaysTo.registers {earlier : List Handle} {last : Handle} {referent : Referent}
    (hrelays : store.RelaysTo config handle earlier last after) (hmem : referent ∈ store.referents)
    (haddress : handle.address = referent.address) :
    ∃ later ∈ after.referents, later.bare = referent.bare ∧
      (config.listsHolders = true →
        (later.roster.listing.map Prod.fst).count last.serial = 1) ∧
      ∀ old ∈ earlier, later.roster.contains old.serial = false := by
  have hbare : referent.bare ∈ after.referents.map Referent.bare :=
    hrelays.ground_eq ▸ List.mem_map_of_mem hmem
  obtain ⟨later, hlater, hsame⟩ := List.mem_map.mp hbare
  have hplace := Referent.address_of_bare hsame
  have hlast : last.address = later.address :=
    (congrArg Slot.address hrelays.slot_eq).trans (haddress.trans hplace.symm)
  have hcontains := (hrelays.consistent.reflects later hlater).contains_iff
  refine ⟨later, hlater, hsame, fun hlists => ?_, fun old hold => ?_⟩
  · refine List.count_eq_one_of_mem (Roster.pairwise_lt_listing.imp Nat.ne_of_lt) ?_
    rw [Roster.mem_map_fst_listing, hcontains]
    exact ⟨hlists, last, mem_of_handle? hrelays.found, rfl, hlast⟩
  · rw [Bool.eq_false_iff, ne_eq, hcontains, hplace, ← haddress]
    exact fun hholds => hrelays.not_holds old hold hholds.2

end Store

end CountedHandles
