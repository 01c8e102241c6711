import CountedHandles.Proofs.Deliveries
import CountedHandles.Proofs.Keeping
import CountedHandles.Proofs.Reassignment

/-!
# Frames

An operation calls only the referents of the handles that it is about and of the values that it
gives them. All other referents are spared: they are not called, they know what they knew, and the
same handles lead to them. What is spared on the way is spared in the end, so a longer operation is
framed by the referents that it starts from, wherever its temporary handles lead in between.
-/

namespace CountedHandles

/-- What a referent knows of the handles that hold it. -/
def Referent.known (referent : Referent) : Nat × Roster :=
  (referent.count, referent.roster)

namespace Store

/-- A handle leads to a referent among some names, or nowhere. -/
def Within (store : Store) (names : List String) (s : Serial) : Prop :=
  ∀ name, store.target? s = some name → name ∈ names

/-- A slot leads to a referent among some names, or nowhere. -/
def SlotWithin (store : Store) (names : List String) (slot : Slot) : Prop :=
  ∀ name, store.nameAt? slot = some name → name ∈ names

/-- A consistent store to which another one has led without any concern of the referents outside
some names. -/
structure Spares (config : Config) (names : List String) (before after : Store) : Prop where
  /-- Every referent knows which handles hold it. -/
  consistent : after.Consistent config
  /-- Only referents among the names have been called. -/
  calls : ∃ sent, after.events = before.events ++ sent ∧
    ∀ call moment, .call call moment ∈ sent → call.referent ∈ names
  /-- All others know what they knew. -/
  known_eq : ∀ name ∉ names, (after.referent? name).map Referent.known =
    (before.referent? name).map Referent.known
  /-- The same handles lead to them. -/
  target?_iff : ∀ name ∉ names, ∀ s, after.target? s = some name ↔ before.target? s = some name

variable {config : Config} {names : List String} {store before between after : Store}
  {sent : List Event} {a b s : Serial} {first second handle source : Handle} {form : Form}
  {slot : Slot} {provenance : Provenance} {referent : Referent} {name : String}

/-- A handle leads to a referent if it holds the place of the referent with the name. -/
theorem WellFormed.target?_eq_some_iff_holds (h : store.WellFormed) :
    store.target? s = some name ↔
      ∃ address, (store.referent? name).map Referent.address = some address ∧
        store.Holds s address := by
  rw [h.target?_eq_some_iff]
  constructor
  · rintro ⟨referent, hmem, rfl, hholds⟩
    exact ⟨_, by rw [h.referent?_of_mem hmem, Option.map_some], hholds⟩
  · rintro ⟨address, hplace, hholds⟩
    obtain ⟨referent, hfound, rfl⟩ := Option.map_eq_some_iff.mp hplace
    obtain ⟨hmem, hname⟩ := (referent?_eq_some_iff h.nodup_names).mp hfound
    exact ⟨referent, hmem, hname, hholds⟩

/-- A handle leads where its slot leads. -/
theorem Within.slotWithin (h : store.Within names s) (hfound : store.handle? s = some handle) :
    store.SlotWithin names handle.slot := fun name hname =>
  h name ((target?_of_handle? hfound).trans hname)

/-- A handle that leads nowhere is within any names. -/
theorem within_of_target? (h : store.target? s = none) : store.Within names s :=
  fun name htarget => by
    rw [h] at htarget
    cases htarget

/-- A handle that leads where a slot leads is within the names as the slot is. -/
theorem SlotWithin.within (h : store.SlotWithin names handle.slot)
    (hfound : store.handle? s = some handle) : store.Within names s := fun name htarget =>
  h name ((target?_of_handle? hfound).symm.trans htarget)

/-- The handle that comes next leads nowhere yet. -/
theorem WellFormed.within_nextSerial (h : store.WellFormed) :
    store.Within names store.nextSerial :=
  within_of_target? (target?_of_handle?_eq_none (handle?_eq_none_iff.mpr h.nextSerial_notMem))

/-- A vacant slot leads nowhere. -/
theorem slotWithin_of_target? (h : slot.target? = none) : store.SlotWithin names slot :=
  fun name hname => by
    rw [nameAt?_of_target? h] at hname
    cases hname

namespace Spares

/-- Where a handle leads stays within the names. -/
theorem within (h : Spares config names before after) (hwithin : before.Within names s) :
    after.Within names s := by
  intro name htarget
  by_contra hname
  exact hname (hwithin name ((h.target?_iff name hname s).mp htarget))

/-- A store that stays as it is spares all referents. -/
theorem refl (h : store.Consistent config) : Spares config names store store where
  consistent := h
  calls := ⟨[], (List.append_nil _).symm, fun _ _ hmem => absurd hmem List.not_mem_nil⟩
  known_eq _ _ := rfl
  target?_iff _ _ _ := Iff.rfl

/-- Referents that are spared on two ways are spared on both together. -/
theorem trans (h : Spares config names before between)
    (hnext : Spares config names between after) : Spares config names before after where
  consistent := hnext.consistent
  calls := by
    obtain ⟨sent, hsent, hcalls⟩ := h.calls
    obtain ⟨later, hlater, hcallsLater⟩ := hnext.calls
    refine ⟨sent ++ later, by rw [hlater, hsent, List.append_assoc], fun call moment hmem => ?_⟩
    exact (List.mem_append.mp hmem).elim (hcalls call moment) (hcallsLater call moment)
  known_eq name hname := (hnext.known_eq name hname).trans (h.known_eq name hname)
  target?_iff name hname s := (hnext.target?_iff name hname s).trans (h.target?_iff name hname s)

/-- Deliveries to some referents spare the others if handles change their targets only among the
former. -/
theorem of_delivers (hconsistent : after.Consistent config)
    (h : Delivers config before sent after)
    (hcalls : ∀ call moment, .call call moment ∈ sent → call.referent ∈ names)
    (htargets : ∀ s, (before.Within names s ∧ after.Within names s) ∨
      after.target? s = before.target? s) : Spares config names before after where
  consistent := hconsistent
  calls := ⟨sent, h.events_eq, hcalls⟩
  known_eq := by
    intro name hname
    rw [h.referent?_eq, Option.map_map]
    refine Option.map_congr fun referent hfound => ?_
    have hunheard : sent.filterMap (Event.messageTo? referent.name) = [] := by
      refine List.eq_nil_iff_forall_not_mem.mpr fun message hmem => hname ?_
      obtain ⟨moment, hcall⟩ := Event.mem_filterMap_messageTo?.mp hmem
      obtain rfl : referent.name = name := by simpa using List.find?_some hfound
      exact hcalls _ _ hcall
    rw [Function.comp_apply, Referent.hear, hunheard, Referent.receiveAll_nil]
  target?_iff := by
    intro name hname s
    rcases htargets s with ⟨hbefore, hafter⟩ | hsame
    · exact iff_of_false (fun htarget => hname (hafter name htarget))
        fun htarget => hname (hbefore name htarget)
    · rw [hsame]

/-! ## Acts -/

/-- A handle that comes into being where nothing else changes its target concerns only the referent
to which it leads. -/
theorem of_created (hbetween : between.WellFormed)
    (hreferents : between.referents = store.referents)
    (hevents : between.events = store.events ++ sent)
    (hsilent : ∀ event ∈ sent, event.call? = none)
    (hconsistent : (between.created config form slot provenance).Consistent config)
    (hslot : store.SlotWithin names slot)
    (htargets : ∀ s, (store.Within names s ∧ between.target? s = none) ∨
      between.target? s = store.target? s) :
    Spares config names store (between.created config form slot provenance) := by
  have hbefore : Delivers config store sent between := .of_silent hevents hreferents hsilent
  have hname : between.nameAt? slot = store.nameAt? slot := nameAt?_congr hreferents
  refine of_delivers hconsistent (hbefore.trans .created) (fun call moment hmem => ?_) fun s => ?_
  · rcases List.mem_append.mp hmem with hmem | hmem
    · exact absurd (hsilent _ hmem) (by simp [Event.call?])
    · obtain ⟨-, hcalled, -⟩ := Config.mem_told (List.mem_of_ne_of_mem (by simp) hmem)
      exact hslot _ (hname.symm.trans hcalled)
  · simp only [Within, hbetween.target?_created]
    split
    · rename_i hserial
      refine Or.inl ⟨?_, fun name hlead => hslot name (hname.symm.trans hlead)⟩
      rcases htargets s with ⟨hwithin, -⟩ | hsame
      · exact hwithin
      · rw [hserial] at hsame ⊢
        exact fun name htarget => hbetween.within_nextSerial name (hsame.trans htarget)
    · rcases htargets s with ⟨hwithin, hnone⟩ | hsame
      · exact Or.inl ⟨hwithin, by simp [hnone]⟩
      · exact Or.inr hsame

/-- A new handle concerns only the referent to which it leads. -/
theorem created (h : store.Consistent config) (hslot : store.SlotWithin names slot)
    (hsettled : (store.nextHandle form slot).Settled store)
    (hprovenance : ∀ source, provenance ≠ .moved source) :
    Spares config names store (store.created config form slot provenance) :=
  of_created h.toWellFormed rfl (List.append_nil _).symm (by simp)
    (h.created hsettled hprovenance) hslot fun _ => Or.inr rfl

/-- Two handles that exchange their contents concern only the referents to which they lead. -/
theorem swapped (h : store.Consistent config) (ha : store.handle? a = some first)
    (hb : store.handle? b = some second) (hform : first.form = second.form)
    (hwithinA : store.Within names a) (hwithinB : store.Within names b) :
    Spares config names store (store.swapped config a b) := by
  obtain ⟨sent, hdelivers, hcalls⟩ := @Delivers.swapped config store a b
  have htarget (s : Serial) := @WellFormed.target?_swapped config _ _ _ s _ _ h.toWellFormed ha hb
  have hafter (s : Serial) (hs : s = a ∨ s = b) : (store.swapped config a b).Within names s := by
    intro name hname
    rw [htarget] at hname
    split at hname
    · exact hwithinB name hname
    · rename_i hne
      rw [if_pos (hs.resolve_left hne)] at hname
      exact hwithinA name hname
  refine of_delivers (h.swapped ha hb hform) hdelivers (fun call moment hmem => ?_) fun s => ?_
  · rcases (hcalls call moment hmem).reaches with hreach | hreach
    · exact hafter a (Or.inl rfl) _ hreach
    · exact hafter b (Or.inr rfl) _ hreach
  · by_cases hs : s = a ∨ s = b
    · refine Or.inl ⟨?_, hafter s hs⟩
      rcases hs with rfl | rfl
      · exact hwithinA
      · exact hwithinB
    · rw [not_or] at hs
      right
      rw [htarget, if_neg hs.1, if_neg hs.2]

/-- A handle that is released concerns only the referent to which it leads. -/
theorem released (h : store.Consistent config) (hwithin : store.Within names s) :
    Spares config names store (store.released config s) := by
  refine of_delivers (h.released s) .released (fun call moment hmem => ?_) fun other => ?_
  · obtain ⟨-, hname, -⟩ := Config.mem_told hmem
    exact hwithin _ hname
  · have htarget : (store.released config s).target? other =
        if other = s then none else store.target? other := by
      rw [Store.released, target?_tell, target?_removeHandle]
    by_cases hother : other = s
    · rw [if_pos hother] at htarget
      exact Or.inl ⟨hother ▸ hwithin, within_of_target? htarget⟩
    · rw [if_neg hother] at htarget
      exact Or.inr htarget

/-- A record for the log concerns no referent. -/
theorem record (h : store.Consistent config) (entry : LogRecord) :
    Spares config names store (store.addEvent (.log entry)) :=
  of_delivers (h.course (.single (.record entry))) (.record entry)
    (fun call moment hmem => by cases List.mem_singleton.mp hmem)
    fun s => Or.inr (target?_congr rfl rfl)

/-- A handle that takes over from another one, which has just given its value away, concerns only
their referent. -/
theorem takenOver {entry : LogRecord}
    (hfound : store.handle? s = some handle) (hbetween : between.WellFormed)
    (hevents : between.events = store.events ++ [.log entry])
    (hreferents : between.referents = store.referents)
    (hconsistent : (between.created config form handle.slot (.moved s)).Consistent config)
    (htargets : ∀ other, between.target? other = if other = s then none else store.target? other)
    (hwithin : store.Within names s) :
    Spares config names store (between.created config form handle.slot (.moved s)) := by
  refine of_created hbetween hreferents hevents (by simp [Event.call?]) hconsistent
    (hwithin.slotWithin hfound) fun other => ?_
  rw [htargets]
  split
  · rename_i hother
    exact Or.inl ⟨hother ▸ hwithin, rfl⟩
  · exact Or.inr rfl

/-- A pointer that becomes a reference concerns only its referent. -/
theorem madeReference (h : store.Consistent config)
    (hfound : store.handle? handle.serial = some handle) (hform : handle.form = .pointer)
    (hsite : handle.address ∈ store.sites) (hwithin : store.Within names handle.serial) :
    Spares config names store (store.madeReference config handle) := by
  have hvacant : ({ handle with slot := Slot.null handle.scheme } : Handle).Settled store :=
    Or.inl ⟨hform, Slot.target?_null _⟩
  refine takenOver hfound (h.setSlot hfound hvacant).addEvent rfl rfl
    (h.madeReference hfound hform hsite) (fun other => ?_) hwithin
  exact (target?_congr rfl rfl).trans (target?_setSlot_null h.nodup_serials)

/-- A reference that becomes a pointer concerns only its referent. -/
theorem madePointer (h : store.Consistent config)
    (hfound : store.handle? handle.serial = some handle) (hform : handle.form = .reference)
    (hwithin : store.Within names handle.serial) :
    Spares config names store (store.madePointer config handle) :=
  takenOver hfound h.removeHandle.addEvent rfl rfl (h.madePointer hfound hform)
    (fun _ => (target?_congr rfl rfl).trans target?_removeHandle) hwithin

/-! ## Operations -/

/-- A handle that exchanges contents with a temporary one concerns only the referents to which they
lead. -/
theorem reassigned (h : store.Consistent config) (ha : store.handle? a = some first)
    (hb : store.handle? b = some second) (hform : first.form = second.form)
    (hwithinA : store.Within names a) (hwithinB : store.Within names b) :
    Spares config names store (store.reassigned config a b) := by
  have hswapped := swapped h ha hb hform hwithinA hwithinB
  exact hswapped.trans (released hswapped.consistent (hswapped.within hwithinB))

/-- A handle that gets another value concerns only the referents to which it leads before and
after. -/
theorem renewed (h : store.Consistent config) (hfound : store.handle? s = some handle)
    (hsettled : (store.nextHandle handle.form slot).Settled store)
    (hprovenance : ∀ source, provenance ≠ .moved source) (hwithin : store.Within names s)
    (hslot : store.SlotWithin names slot) :
    Spares config names store (store.renewed config s handle.form slot provenance) := by
  have hcreated := created h hslot hsettled hprovenance
  exact hcreated.trans (reassigned hcreated.consistent (handle?_created hfound)
    (handle?_created_nextSerial h.toWellFormed) rfl (hcreated.within hwithin)
    (hcreated.within h.within_nextSerial))

/-- A pointer whose value is moved out concerns only its referent. -/
theorem movedOut (h : store.Consistent config) (hfound : store.handle? s = some handle)
    (hform : handle.form = .pointer) (hwithin : store.Within names s) :
    Spares config names store (store.movedOut config handle.scheme s) := by
  have hcreated : Spares config names store
      (store.created config .pointer (Slot.null handle.scheme) .created) :=
    created h (slotWithin_of_target? (Slot.target?_null _)) (settled_null _) (by simp)
  exact hcreated.trans (swapped hcreated.consistent (handle?_created_nextSerial h.toWellFormed)
    (handle?_created hfound) hform.symm (hcreated.within h.within_nextSerial)
    (hcreated.within hwithin))

/-- A bucket that is deleted by taking its value out concerns only its referent. -/
theorem vacated (h : store.Consistent config)
    (hfound : store.handle? handle.serial = some handle) (hform : handle.form = .pointer)
    (hwithin : store.Within names handle.serial) :
    Spares config names store (store.vacated config handle) := by
  have hrecorded : Spares config names store
      (store.addEvent (.log (.reclaiming handle.address))) := record h _
  have hmoved := movedOut hrecorded.consistent hfound hform (hrecorded.within hwithin)
  have hreleased := released hmoved.consistent
    (hmoved.within hrecorded.consistent.within_nextSerial)
  have hemptied := hrecorded.trans (hmoved.trans hreleased)
  exact hemptied.trans (@renewed config names _ handle.serial
    { handle with slot := Slot.null handle.scheme } (Slot.deleted handle.scheme) .created
    hemptied.consistent (handle?_emptied hrecorded.consistent hfound)
    (Or.inl ⟨hform, Slot.target?_deleted _⟩) (by simp) (hemptied.within hwithin)
    (slotWithin_of_target? (Slot.target?_deleted _)))

/-- Handles that are released one after the other concern only the referents to which they lead. -/
theorem releasedAll {serials : List Serial} (h : store.Consistent config)
    (hwithin : ∀ s ∈ serials, store.Within names s) :
    Spares config names store (store.releasedAll config serials) := by
  induction serials generalizing store with
  | nil => exact refl h
  | cons s rest ih =>
    have hreleased := released h (hwithin s List.mem_cons_self)
    exact hreleased.trans (ih hreleased.consistent fun other hother =>
      hreleased.within (hwithin other (List.mem_cons_of_mem _ hother)))

/-! ## Referents that come, go and change -/

/-- Where handles and events stay, all referents are spared that stay in their places and know what
they knew. -/
theorem of_referents (h : before.Consistent config) (hafter : after.Consistent config)
    (hhandles : after.handles = before.handles) (hevents : after.events = before.events)
    (hothers : ∀ name ∉ names,
      (after.referent? name).map (fun referent => (referent.address, referent.known)) =
        (before.referent? name).map fun referent => (referent.address, referent.known)) :
    Spares config names before after where
  consistent := hafter
  calls := ⟨[], by rw [hevents, List.append_nil], fun _ _ hmem => absurd hmem List.not_mem_nil⟩
  known_eq := by
    intro name hname
    have hknown := congrArg (Option.map Prod.snd) (hothers name hname)
    rw [Option.map_map, Option.map_map] at hknown
    exact hknown
  target?_iff := by
    intro name hname s
    have haddress : (after.referent? name).map Referent.address =
        (before.referent? name).map Referent.address := by
      have hpair := congrArg (Option.map Prod.fst) (hothers name hname)
      rw [Option.map_map, Option.map_map] at hpair
      exact hpair
    have hholds (address : Address) : after.Holds s address ↔ before.Holds s address := by
      rw [Holds, hhandles, Holds]
    rw [hafter.target?_eq_some_iff_holds, h.target?_eq_some_iff_holds]
    simp only [hholds, haddress]

/-- A referent that comes into being concerns no other. -/
theorem addReferent {address : Address} {value : Int64} (h : store.Consistent config)
    (hnew : name ∉ store.names) (hfree : address ∉ store.sites) (hsite : address.isSite = true)
    (hname : name ∈ names) :
    Spares config names store (store.addReferent name address value) := by
  refine of_referents h (h.addReferent hnew hfree hsite) rfl rfl fun other hother => ?_
  have hne : other ≠ name := fun heq => hother (heq ▸ hname)
  rw [referent?_addReferent_of_ne hne]

/-- A referent that goes away concerns no other. -/
theorem removeReferent (h : store.Consistent config)
    (hafter : (store.removeReferent name).Consistent config) (hname : name ∈ names) :
    Spares config names store (store.removeReferent name) := by
  refine of_referents h hafter rfl rfl fun other hother => ?_
  have hne : other ≠ name := fun heq => hother (heq ▸ hname)
  rw [referent?_removeReferent_of_ne hne]

/-- A referent that changes in a way that no handle depends on concerns none. -/
theorem updateReferent {change : Referent → Referent} (h : store.Consistent config)
    (hchange : Unobtrusive change) :
    Spares config names store (store.updateReferent name change) := by
  refine of_referents h (h.updateReferent hchange) rfl rfl fun other hother => ?_
  rw [referent?_updateReferent hchange.name_eq, Option.map_map]
  refine Option.map_congr fun referent _ => ?_
  rw [Function.comp_apply]
  split
  · simp [Referent.known, hchange.address_eq, hchange.count_eq, hchange.roster_eq]
  · rfl

/-- A referent that goes away with its links concerns only the referents of the links. -/
theorem destroyed (h : store.Consistent config) (hmem : referent ∈ store.referents)
    (hchecked : (store.checkpoint config referent).violationOf? referent.name = none)
    (hname : referent.name ∈ names) (hwithin : ∀ s ∈ referent.links, store.Within names s) :
    Spares config names store (store.destroyed config referent) := by
  have hreleased := releasedAll h hwithin
  exact hreleased.trans (removeReferent hreleased.consistent
    ((Act.destroyed h hmem hchecked).consistent hreleased.consistent) hname)

end Spares

/-- A reassignment concerns only the referents of the handle and of the value that it gets. -/
theorem Reassigns.spares {change : Reassignment} (h : store.Reassigns config change after)
    (hc : store.Consistent config) (hwithin : store.Within names change.handle.serial)
    (hvalue : store.SlotWithin names change.value) : Spares config names store after := by
  cases h with
  | renew found scheme_eq settled provenance_eq =>
    refine .renewed hc found settled (fun source => ?_) hwithin hvalue
    rcases provenance_eq with rfl | ⟨other, -, -, rfl⟩ <;> simp
  | @move first second found_first found_second first_form second_form scheme_eq ne =>
    have hmoved : Spares config names store
        (store.movedOut config second.scheme second.serial) :=
      .movedOut hc found_second second_form (hvalue.within found_second)
    exact hmoved.trans (.reassigned hmoved.consistent
      (handle?_movedOut_of_ne hc found_second found_first ne)
      (handle?_movedOut_nextSerial hc found_second) first_form (hmoved.within hwithin)
      (hmoved.within hc.within_nextSerial))

end Store

end CountedHandles
