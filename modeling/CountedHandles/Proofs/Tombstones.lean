import CountedHandles.Proofs.Settlement

/-!
# Tombstones

There are three ways to make a bucket the mark of a deleted one: to give it that value at once, to
take its value out and drop it first, and to drop the whole bucket for an empty one first. They
leave the same, except for the serial numbers that they spend and for the one that the bucket
bears.
-/

namespace CountedHandles

/-- What becomes of a referent when a handle goes: if the handle held it, it counts one less, and it
lists the handle no more. -/
structure Handle.Leaves (handle : Handle) (referent later : Referent) : Prop where
  /-- It stays what it is apart from the handles that hold it. -/
  bare_eq : later.bare = referent.bare
  /-- It counts the handle no more if that held it. -/
  count_eq : later.count + (if handle.address = referent.address then 1 else 0) = referent.count
  /-- It keeps all entries but that of the handle. -/
  provenance?_eq : ∀ s, later.roster.provenance? s =
    if s = handle.serial then none else referent.roster.provenance? s

namespace Store

variable {config : Config} {store between after : Store} {bucket : Handle} {serial s : Serial}
  {sent : List Event} {spent : Nat}

/-- The slot of a bucket, which is named by its serial number, has been made the mark of a deleted
bucket. -/
structure Entombs (config : Config) (store : Store) (bucket : Handle) (serial : Serial)
    (spent : Nat) (sent : List Event) (after : Store) : Prop where
  /-- This many serial numbers have been spent. -/
  nextSerial_eq : after.nextSerial = store.nextSerial + spent
  /-- The bucket is deleted and bears a serial number that may be another one. No other handle has
  changed. -/
  handle?_eq : ∀ s, after.handle? s =
    if s = serial then some ⟨serial, .pointer, Slot.deleted bucket.scheme⟩
    else if s = bucket.serial then none else store.handle? s
  /-- The referent that the bucket held has lost it, and no other referent has changed. -/
  referents : List.Forall₂ bucket.Leaves store.referents after.referents
  /-- What referents have become is what they make of the calls. -/
  delivers : Delivers config store sent after
  /-- The referent that the bucket held is told to count one less, once, and nothing else is said
  about counts. -/
  count_heard : ∀ name, (sent.filterMap (Event.messageTo? name)).count .increment = 0 ∧
    (sent.filterMap (Event.messageTo? name)).count .decrement =
      if store.target? bucket.serial = some name then 1 else 0

/-! ## What is told -/

/-- Where the release of a handle comes between calls that concern no count, the referent of the
handle is told once to count one less. -/
theorem count_heard_released {name? : Option String} {first rest : List Event} {gone : Serial}
    {moment : Moment} (name : String)
    (hfirst : ∀ call shown, .call call shown ∈ first → call.message.recounts = false)
    (hrest : ∀ event ∈ rest, event.call? = none) :
    ((first ++ config.told name? [.notice (.unregister gone), .decrement] moment ++
      rest).filterMap (Event.messageTo? name)).count .increment = 0 ∧
    ((first ++ config.told name? [.notice (.unregister gone), .decrement] moment ++
      rest).filterMap (Event.messageTo? name)).count .decrement =
        if name? = some name then 1 else 0 := by
  have hnone {message : Message} (hrecounts : message.recounts = true) :
      (first.filterMap (Event.messageTo? name)).count message = 0 := by
    refine List.count_eq_zero.mpr fun hmem => ?_
    obtain ⟨shown, hcall⟩ := Event.mem_filterMap_messageTo?.mp hmem
    rw [hfirst _ _ hcall] at hrecounts
    cases hrecounts
  simp only [List.filterMap_append, List.count_append, @hnone .increment rfl, @hnone .decrement rfl,
    Event.filterMap_messageTo?_of_silent hrest,
    Config.heard_told]
  split
  · cases htracking : config.build.tracking <;> simp [List.filter, Config.sends, htracking]
  · simp

/-! ## What is left -/

/-- A bucket that stands deleted, under its serial number or a new one, while all others stand as
before and the old value is held once less, is a tombstone. -/
theorem Consistent.entombs (h : store.Consistent config) (hafter : after.Consistent config)
    (hserial : serial = bucket.serial ∨ store.handle? serial = none)
    (hnext : after.nextSerial = store.nextSerial + spent)
    (hstanding : ∀ s, after.standing? s =
      if s = serial then some ⟨.pointer, Slot.deleted bucket.scheme, none⟩
      else if s = bucket.serial then none else store.standing? s)
    (hlength : ∀ address ∈ store.sites, (after.holders address).length +
      (if bucket.address = address then 1 else 0) = (store.holders address).length)
    (hdelivers : Delivers config store sent after)
    (hheard : ∀ name, (sent.filterMap (Event.messageTo? name)).count .increment = 0 ∧
      (sent.filterMap (Event.messageTo? name)).count .decrement =
        if store.target? bucket.serial = some name then 1 else 0) :
    store.Entombs config bucket serial spent sent after := by
  refine ⟨hnext, fun s => ?_, forall₂_of_map_eq hdelivers.ground_eq
    fun referent hmem later hlater hbare => ⟨hbare, ?_, fun s => ?_⟩, hdelivers, hheard⟩
  · rw [handle?_eq_map_standing?, hstanding]
    split
    · rename_i hbucket
      rw [hbucket]
      rfl
    split
    · rfl
    · exact handle?_eq_map_standing?.symm
  · rw [(hafter.reflects later hlater).count_eq, (h.reflects referent hmem).count_eq,
      Referent.address_of_bare hbare]
    exact hlength _ (List.mem_map_of_mem hmem)
  · rw [hafter.provenance?_eq hlater, hstanding, h.provenance?_eq hmem,
      Referent.name_of_bare hbare]
    simp only [nameAt?_of_ground hdelivers.ground_eq]
    split
    · rename_i hbucket
      rw [Option.bind_some, ite_self]
      split
      · rfl
      · rename_i hother
        have hnone : store.standing? s = none := by
          rw [hbucket, standing?, hserial.resolve_left (hbucket ▸ hother), Option.map_none]
        rw [hnone, Option.bind_none]
    split
    · rfl
    · rfl

/-! ## Marking a bucket -/

/-- A store in which a bucket has been given the mark of a deleted one. -/
def marked (config : Config) (store : Store) (bucket : Handle) : Store :=
  store.renewed config bucket.serial bucket.form (Slot.deleted bucket.scheme) .created

section Marking

variable (h : store.Consistent config) (hfound : store.handle? bucket.serial = some bucket)
  (hform : bucket.form = .pointer)

include h hfound hform

/-- A bucket is marked through a temporary handle that is marked. -/
theorem exists_acquires_mark :
    ∃ between, store.Acquires config ⟨bucket, Slot.deleted bucket.scheme, none⟩ between ∧
      store.marked config bucket = between.reassigned config bucket.serial store.nextSerial :=
  (Reassigns.renew hfound (Slot.scheme_deleted _) (Or.inl ⟨hform, Slot.target?_deleted _⟩)
    (Or.inl rfl)).exists_acquires h

/-- A bucket that has been marked leaves a store consistent. -/
theorem Consistent.marked : (store.marked config bucket).Consistent config := by
  obtain ⟨between, hacquires, hmarked⟩ := exists_acquires_mark h hfound hform
  have hconsistent := hacquires.consistent_reassigned h
  rwa [← hmarked] at hconsistent

/-- A bucket that has been marked stands so, and all others stand as before. -/
theorem standing?_marked : (store.marked config bucket).standing? s =
    if s = bucket.serial then some ⟨.pointer, Slot.deleted bucket.scheme, none⟩
    else store.standing? s := by
  obtain ⟨between, hacquires, hmarked⟩ := exists_acquires_mark h hfound hform
  rw [hmarked, hacquires.standing?_reassigned h]
  split
  · simp only [hform, nameAt?_deleted, entry?_of_nameAt? nameAt?_deleted, Option.some.injEq,
      Standing.mk.injEq, true_and, ite_eq_right_iff]
    exact fun hvacant => origin?_of_nameAt? hfound hvacant.symm
  · rfl

/-- The old value of a bucket that has been marked is held once less. -/
theorem length_holders_marked {address : Address} (hsite : address ∈ store.sites) :
    ((store.marked config bucket).holders address).length +
      (if bucket.address = address then 1 else 0) = (store.holders address).length := by
  obtain ⟨between, hacquires, hmarked⟩ := exists_acquires_mark h hfound hform
  have hdeleted : (Slot.deleted bucket.scheme).address ≠ address :=
    (Slot.ne_deleted_of_isSite (h.isSite _ hsite) _).symm
  have hlength := hacquires.length_holders_reassigned h hsite
  simpa [hdeleted, ← hmarked] using hlength

/-- The referent of a bucket that is marked is told that it is released. -/
theorem delivers_marked :
    ∃ first moment, Delivers config store
        (first ++ config.told (store.target? bucket.serial)
          [.notice (.unregister store.nextSerial), .decrement] moment)
        (store.marked config bucket) ∧
      ∀ call shown, .call call shown ∈ first → call.message.recounts = false ∧
        store.target? bucket.serial = some call.referent := by
  obtain ⟨between, hacquires, hmarked⟩ := exists_acquires_mark h hfound hform
  obtain ⟨first, moment, hdelivers, -, hgains⟩ := hacquires.delivers_reassigned h
  refine ⟨first, moment, hmarked ▸ hdelivers, fun call shown hmem => ?_⟩
  have hgain := hgains call shown hmem
  have hnot : ¬ store.nameAt? (Slot.deleted bucket.scheme) = some call.referent := by simp
  exact ⟨Bool.eq_false_iff.mpr fun hrecounts => hnot (hgain.recounts hrecounts),
    hgain.reaches.resolve_left hnot⟩

/-- A bucket that holds no referent is marked without any call. -/
theorem delivers_marked_of_vacant (hvacant : store.target? bucket.serial = none) :
    ∃ sent, Delivers config store sent (store.marked config bucket) ∧
      ∀ event ∈ sent, event.call? = none := by
  obtain ⟨first, moment, hdelivers, hcalls⟩ := delivers_marked h hfound hform
  rw [hvacant] at hdelivers hcalls
  refine ⟨_, hdelivers, fun event hmem => ?_⟩
  rw [Config.told, Option.elim, List.append_nil] at hmem
  cases event with
  | call call shown => exact absurd (hcalls call shown hmem).2 (by simp)
  | created => rfl
  | log => rfl

/-- A bucket that is marked at once keeps its serial number and spends one. -/
theorem entombs_marked :
    ∃ sent, store.Entombs config bucket bucket.serial 1 sent (store.marked config bucket) := by
  obtain ⟨between, hacquires, hmarked⟩ := exists_acquires_mark h hfound hform
  have hnext := (hacquires.settles_reassigned h).nextSerial_eq
  obtain ⟨first, moment, hdelivers, hcalls⟩ := delivers_marked h hfound hform
  refine ⟨_, h.entombs (h.marked hfound hform) (Or.inl rfl) (hmarked ▸ hnext) (fun s => ?_)
    (fun _ hsite => length_holders_marked h hfound hform hsite) hdelivers fun name => ?_⟩
  · rw [standing?_marked h hfound hform]
    split
    · rfl
    · rfl
  · have hheard := @count_heard_released config (store.target? bucket.serial) first []
      store.nextSerial moment name (fun call shown hmem => (hcalls call shown hmem).1) (by simp)
    simpa only [List.append_nil] using hheard

end Marking

/-! ## Emptying a bucket first -/

/-- A store in which a new empty bucket is there and the old one has been released. -/
def refilled (config : Config) (store : Store) (bucket : Handle) : Store :=
  (store.created config .pointer (Slot.null bucket.scheme) .created).released config bucket.serial

/-- A store in which a bucket has been deleted by putting an empty one in its place. -/
def replaced (config : Config) (store : Store) (bucket : Handle) : Store :=
  (store.refilled config bucket).marked config (store.nextHandle .pointer (Slot.null bucket.scheme))

/-- A bucket, which is named by its serial number, is empty, and its old value has been released. -/
structure Empties (config : Config) (store : Store) (bucket : Handle) (serial : Serial)
    (between : Store) : Prop where
  /-- The store is consistent again. -/
  consistent : between.Consistent config
  /-- One serial number has been spent. -/
  nextSerial_eq : between.nextSerial = store.nextSerial + 1
  /-- The bucket bears its old serial number or a new one. -/
  serial_eq : serial = bucket.serial ∨ store.handle? serial = none
  /-- The bucket is empty, and all other handles stand as before. -/
  standing?_eq : ∀ s, between.standing? s =
    if s = serial then some ⟨.pointer, Slot.null bucket.scheme, none⟩
    else if s = bucket.serial then none else store.standing? s
  /-- The old value is held once less. -/
  length_holders : ∀ address ∈ store.sites, (between.holders address).length +
    (if bucket.address = address then 1 else 0) = (store.holders address).length
  /-- All calls show the bucket empty, and the last ones release the old value. -/
  delivers : ∃ first gone moment, Delivers config store
      (first ++ config.told (store.target? bucket.serial)
        [.notice (.unregister gone), .decrement] moment) between ∧
    Moment.slot? moment serial = some (Slot.null bucket.scheme) ∧
    ∀ call shown, .call call shown ∈ first → call.message.recounts = false ∧
      Moment.slot? shown serial = some (Slot.null bucket.scheme)

/-- A bucket that is empty becomes a tombstone when it is marked, without any other call. -/
theorem Empties.entombs (hempties : store.Empties config bucket serial between)
    (h : store.Consistent config) :
    ∃ sent, store.Entombs config bucket serial 2 sent
        (between.marked config ⟨serial, .pointer, Slot.null bucket.scheme⟩) ∧
      ∀ call shown, .call call shown ∈ sent →
        Moment.slot? shown serial = some (Slot.null bucket.scheme) := by
  have hfound : between.handle? serial = some ⟨serial, .pointer, Slot.null bucket.scheme⟩ := by
    rw [handle?_eq_map_standing?, hempties.standing?_eq, if_pos rfl, Option.map_some]
  have hvacant : between.target? serial = none := by
    rw [target?_of_handle? hfound, nameAt?_null]
  obtain ⟨_, hacquires, hmarked⟩ := @exists_acquires_mark config between
    ⟨serial, .pointer, Slot.null bucket.scheme⟩ hempties.consistent hfound rfl
  have hnext := (hacquires.settles_reassigned hempties.consistent).nextSerial_eq
  rw [← hmarked, hempties.nextSerial_eq] at hnext
  obtain ⟨first, gone, moment, hdelivers, hshown, hcalls⟩ := hempties.delivers
  obtain ⟨rest, hrest, hsilent⟩ := @delivers_marked_of_vacant config between
    ⟨serial, .pointer, Slot.null bucket.scheme⟩ hempties.consistent hfound rfl hvacant
  refine ⟨_, h.entombs (hempties.consistent.marked hfound rfl) hempties.serial_eq hnext
    (fun s => ?_) (fun address hsite => ?_) (hdelivers.trans hrest) (fun name =>
      count_heard_released name (fun call shown hmem => (hcalls call shown hmem).1) hsilent), ?_⟩
  · rw [standing?_marked hempties.consistent hfound rfl, hempties.standing?_eq]
    simp only [Handle.scheme, Slot.scheme_null]
    split
    · rfl
    · rfl
  · have hsites : between.sites = store.sites := sites_of_ground hdelivers.ground_eq
    have hlength := @length_holders_marked config between
      ⟨serial, .pointer, Slot.null bucket.scheme⟩ hempties.consistent hfound rfl address
      (hsites ▸ hsite)
    rw [Handle.address, if_neg (h.address_null_ne hsite), Nat.add_zero] at hlength
    rw [hlength]
    exact hempties.length_holders address hsite
  · -- An empty bucket calls no one when it is marked, so all calls were made while it was empty.
    intro call shown hmem
    rcases List.mem_append.mp hmem with hmem | hmem
    · rcases List.mem_append.mp hmem with hmem | hmem
      · exact (hcalls call shown hmem).2
      · rw [(Config.mem_told hmem).1]
        exact hshown
    · exact absurd (hsilent _ hmem) (by simp [Event.call?])

/-- A record for the log makes no difference to a bucket that is emptied. -/
theorem Empties.of_record {entry : LogRecord}
    (hempties : (store.addEvent (.log entry)).Empties config bucket serial between) :
    store.Empties config bucket serial between where
  consistent := hempties.consistent
  nextSerial_eq := hempties.nextSerial_eq
  serial_eq := hempties.serial_eq
  standing?_eq := hempties.standing?_eq
  length_holders := hempties.length_holders
  delivers := by
    obtain ⟨first, gone, moment, hdelivers, hshown, hcalls⟩ := hempties.delivers
    have hrecorded := (Delivers.record entry).trans hdelivers
    rw [← List.append_assoc] at hrecorded
    exact ⟨_, gone, moment, hrecorded, hshown, fun call shown hmem =>
      hcalls call shown (List.mem_of_ne_of_mem (by simp) hmem)⟩

section Emptying

variable (h : store.Consistent config) (hfound : store.handle? bucket.serial = some bucket)
  (hform : bucket.form = .pointer)

include h hfound

/-- A bucket is emptied by putting an empty one in its place and releasing the old one. -/
theorem empties_refilled :
    store.Empties config bucket store.nextSerial (store.refilled config bucket) := by
  have hcreated := h.created_null bucket.scheme
  have hfresh := @handle?_created_nextSerial config _ .pointer (Slot.null bucket.scheme) .created
    h.toWellFormed
  have hstill := @handle?_created config _ _ _ .pointer (Slot.null bucket.scheme) .created hfound
  have hne := h.ne_nextSerial hfound
  have hreleased := (@Delivers.created config store .pointer (Slot.null bucket.scheme)
    .created).trans (@Delivers.released config _ bucket.serial)
  rw [h.target?_created, if_neg hne, nameAt?_null] at hreleased
  refine ⟨hcreated.released _, ?_, Or.inr (handle?_eq_none_iff.mpr h.nextSerial_notMem),
    fun s => ?_, fun address hsite => ?_, _, bucket.serial, _, hreleased, ?_,
    fun call shown hmem => ?_⟩
  · simp [refilled, released]
  · rw [refilled, standing?_released, h.standing?_created (by simp),
      entry?_of_nameAt? nameAt?_null]
    split
    · rename_i hold
      rw [hold, if_neg hne]
    · rfl
  · have hlength := @length_holders_released config _ _ _ address hcreated.nodup_serials hstill
    rwa [length_holders_created, if_neg (h.address_null_ne hsite), Nat.add_zero] at hlength
  · rw [slot?_handles, handle?_removeHandle hne.symm, hfresh]
    rfl
  · simp [Config.told] at hmem

/-- A bucket that is replaced by an empty one first comes to bear the next serial number and spends
two, and all calls show it empty. -/
theorem entombs_replaced :
    ∃ sent, store.Entombs config bucket store.nextSerial 2 sent (store.replaced config bucket) ∧
      ∀ call shown, .call call shown ∈ sent →
        Moment.slot? shown store.nextSerial = some (Slot.null bucket.scheme) :=
  (empties_refilled h hfound).entombs h

include hform

/-- A bucket is emptied by moving its value out and releasing that. -/
theorem empties_movedOut : store.Empties config bucket bucket.serial
    ((store.movedOut config bucket.scheme bucket.serial).released config store.nextSerial) := by
  have hmoved := h.course (Course.movedOut h.toWellFormed hfound hform)
  have hdoomed := @handle?_movedOut_nextSerial config _ _ _ h hfound
  have hempty := handle?_movedOut h hfound
  have hne := h.ne_nextSerial hfound
  obtain ⟨sent, hdelivers, hcalls⟩ :=
    @Delivers.movedOut config store bucket.scheme bucket.serial
  have htarget : (store.movedOut config bucket.scheme bucket.serial).target? store.nextSerial =
      store.target? bucket.serial := by
    rw [target?_of_handle? hdoomed, nameAt?_of_ground hdelivers.ground_eq,
      target?_of_handle? hfound]
    rfl
  have hreleased := hdelivers.trans (@Delivers.released config _ store.nextSerial)
  rw [htarget] at hreleased
  refine ⟨hmoved.released _, ?_, Or.inl rfl, fun s => ?_, fun address hsite => ?_,
    sent, store.nextSerial, _, hreleased, ?_, fun call shown hmem => ?_⟩
  · simp [released, movedOut]
  · rw [standing?_released, h.standing?_movedOut hfound, hform]
    split
    · rename_i hdropped
      rw [hdropped, if_neg hne.symm, if_neg hne.symm, h.standing?_nextSerial]
    split
    · rfl
    · rfl
  · have hlength := @length_holders_released config _ _ _ address hmoved.nodup_serials hdoomed
    rwa [h.length_holders_movedOut hfound hsite] at hlength
  · rw [slot?_handles, handle?_removeHandle hne, hempty, Option.map_some]
  · have hcall := hcalls call shown hmem
    refine ⟨hcall.quiet.2, ?_⟩
    rw [hcall.moment_eq, slot?_handles, hempty, Option.map_some]

/-- A bucket whose value is taken out first keeps its serial number and spends two, and all calls
show it empty. -/
theorem entombs_vacated :
    ∃ sent, store.Entombs config bucket bucket.serial 2 sent (store.vacated config bucket) ∧
      ∀ call shown, .call call shown ∈ sent →
        Moment.slot? shown bucket.serial = some (Slot.null bucket.scheme) := by
  have hrecorded := (Act.record (.reclaiming bucket.address)).consistent h
  have hentombs := (empties_movedOut hrecorded hfound hform).of_record.entombs h
  have hvacated : (((store.addEvent (.log (.reclaiming bucket.address))).movedOut config
      bucket.scheme bucket.serial).released config store.nextSerial).marked config
      ⟨bucket.serial, .pointer, Slot.null bucket.scheme⟩ = store.vacated config bucket := by
    simp [marked, vacated, Handle.scheme, hform]
  rw [← hvacated]
  exact hentombs

end Emptying

end Store

/-! ## Commands that delete a bucket -/

/-- A pointer under a name has become a tombstone in a step, and nothing else has changed in a
session. -/
structure Session.Entombs (config : Config) (session : Session) (name : String) (bucket : Handle)
    (serial : Serial) (spent : Nat) (shown : Step) (after : Session) : Prop where
  /-- The step is answered. -/
  outcome_eq : shown.outcome = .answered .nothing
  /-- The name stands for the bucket, and all other names stand for what they stood for. -/
  serial?_eq : ∀ other, after.serial? other =
    if other = name then some serial else session.serial? other
  /-- The sets have the same members. -/
  members_eq : ∀ scheme, after.members scheme = session.members scheme
  /-- No referent has been created. -/
  created_eq : after.created = session.created
  /-- The store holds a tombstone in place of the bucket. -/
  store_entombs : session.clearEvents.store.Entombs config bucket serial spent shown.events
    after.store

namespace ChangeCommand

open Turn Session

variable {config : Config} {session : Session} {name : String} {bucket : Handle}
  (h : session.store.Consistent config) (hserial : session.serial? name = some bucket.serial)
  (hstored : session.store.handle? bucket.serial = some bucket) (hform : bucket.form = .pointer)

include h hserial hstored hform

/-- A pointer that exists is marked. -/
theorem ends_markDeleted : ((markDeleted name).run config).Ends session
    (fun answer after => answer = .nothing ∧
      after = { session with store := session.store.marked config bucket })
    fun _ _ => False := by
  have hfound := handle?_of_serial? hserial hstored
  exact ends_bind (ends_pointer_of_found hfound hform
    (ends_act (Handle.run_markDeleted h hstored hform) ⟨rfl, rfl⟩))

variable (hdeleted : bucket.slot.isDeleted = false)

include hdeleted

/-- A bucket that exists and is not deleted is deleted by taking its value out. -/
theorem ends_vacateBucket : ((vacateBucket name).run config).Ends session
    (fun answer after => answer = .nothing ∧
      after = { session with store := session.store.vacated config bucket })
    fun _ _ => False := by
  have hfound := handle?_of_serial? hserial hstored
  exact ends_bind (ends_pointer_of_found hfound hform
    (ends_act (Handle.run_vacateBucket h hstored hform hdeleted) ⟨rfl, rfl⟩))

/-- A bucket that exists and is not deleted is deleted by putting an empty one in its place. -/
theorem ends_replaceBucket : ((replaceBucket name).run config).Ends session
    (fun answer after => answer = .nothing ∧
      after = { session.bindName name session.store.nextSerial with
        store := session.store.replaced config bucket })
    fun _ _ => False := by
  have hfound := handle?_of_serial? hserial hstored
  have hguard := Handle.run_requireNotDeleted bucket session.store
  rw [hdeleted, if_neg Bool.false_ne_true] at hguard
  have hcreation := @Handle.run_null config session.store bucket.scheme
  have hempties := Store.empties_refilled h hstored
  have hfresh : (session.store.refilled config bucket).handle? session.store.nextSerial =
      some (session.store.nextHandle .pointer (Slot.null bucket.scheme)) := by
    rw [Store.handle?_eq_map_standing?, hempties.standing?_eq, if_pos rfl]
    rfl
  have hempty : ({ session.bindName name session.store.nextSerial with
      store := session.store.refilled config bucket } : Session).handle? name =
      some (session.store.nextHandle .pointer (Slot.null bucket.scheme)) := by
    change ((session.bindName name _).serial? name).bind _ = _
    rw [serial?_bindName, if_pos rfl]
    exact hfresh
  refine ends_bind (ends_pointer_of_found hfound hform ?_)
  refine ends_bind (ends_perform hguard (ends_bind (ends_perform hcreation ?_)))
  refine ends_bind (ends_keep_of_taken (h.created_null _) hserial ?_)
  exact ends_bind (ends_pointer_of_found hempty rfl
    (ends_act (Handle.run_markDeleted hempties.consistent hfresh rfl) ⟨rfl, rfl⟩))

end ChangeCommand

namespace Session

variable {config : Config} {session : Session} {name : String} {bucket : Handle}

/-- A name that is bound to what it stands for leaves all names alone. -/
theorem serial?_of_bound {serial : Serial} (hserial : session.serial? name = some serial)
    (other : String) :
    session.serial? other = if other = name then some serial else session.serial? other := by
  split
  · rename_i hname
    rw [hname, hserial]
  · rfl

/-- A turn that leads to a store with a tombstone, and to names and sets as they should be, makes a
tombstone as a step. -/
theorem exists_step_entombs {turn : Turn Answer} {target : Session} {serial : Serial} {spent : Nat}
    {sent : List Event} (hends : turn.Ends session.clearEvents
      (fun answer after => answer = .nothing ∧ after = target) fun _ _ => False)
    (hnames : ∀ other, target.serial? other =
      if other = name then some serial else session.serial? other)
    (hmembers : ∀ scheme, target.members scheme = session.members scheme)
    (hcreated : target.created = session.created)
    (hentombs : session.clearEvents.store.Entombs config bucket serial spent sent target.store) :
    ∃ shown, session.step config turn = .ok (shown, target) ∧ shown.events = sent ∧
      session.Entombs config name bucket serial spent shown target := by
  obtain ⟨_, after, hstep, rfl, rfl⟩ := exists_step_of_ends hends
  have hsent : after.store.events = sent := hentombs.delivers.events_eq
  subst hsent
  exact ⟨_, hstep, rfl, rfl, hnames, hmembers, hcreated, hentombs⟩

section Deletions

variable (h : session.clearEvents.store.Consistent config)
  (hserial : session.serial? name = some bucket.serial)
  (hstored : session.store.handle? bucket.serial = some bucket) (hform : bucket.form = .pointer)

include h hserial hstored hform

/-- As a step, a pointer that exists is marked and keeps its serial number. -/
theorem exists_step_markDeleted :
    ∃ shown after,
      session.step config (Command.run config (.change (.markDeleted name))) = .ok (shown, after) ∧
      session.Entombs config name bucket bucket.serial 1 shown after := by
  obtain ⟨sent, hentombs⟩ := Store.entombs_marked h hstored hform
  obtain ⟨shown, hstep, -, hdone⟩ := exists_step_entombs
    (@ChangeCommand.ends_markDeleted config session.clearEvents _ _ h hserial hstored
      hform) (serial?_of_bound hserial) (fun scheme => by cases scheme <;> rfl) rfl hentombs
  exact ⟨shown, _, hstep, hdone⟩

variable (hdeleted : bucket.slot.isDeleted = false)

include hdeleted

/-- As a step, a bucket that exists and is not deleted becomes a tombstone after its value has been
taken out, and every call shows it empty. -/
theorem exists_step_vacateBucket :
    ∃ shown after,
      session.step config (Command.run config (.change (.vacateBucket name))) = .ok (shown, after) ∧
      session.Entombs config name bucket bucket.serial 2 shown after ∧
      ∀ call moment, .call call moment ∈ shown.events →
        Moment.slot? moment bucket.serial = some (Slot.null bucket.scheme) := by
  obtain ⟨sent, hentombs, hshows⟩ := Store.entombs_vacated h hstored hform
  obtain ⟨shown, hstep, hsent, hdone⟩ := exists_step_entombs
    (@ChangeCommand.ends_vacateBucket config session.clearEvents _ _ h hserial hstored hform
      hdeleted) (serial?_of_bound hserial) (fun scheme => by cases scheme <;> rfl) rfl
    hentombs
  exact ⟨shown, _, hstep, hdone, hsent ▸ hshows⟩

/-- As a step, a bucket that exists and is not deleted becomes a tombstone after an empty one has
been put in its place, and every call shows that one empty. -/
theorem exists_step_replaceBucket :
    ∃ shown after,
      session.step config (Command.run config (.change (.replaceBucket name))) =
        .ok (shown, after) ∧
      session.Entombs config name bucket session.store.nextSerial 2 shown after ∧
      ∀ call moment, .call call moment ∈ shown.events →
        Moment.slot? moment session.store.nextSerial = some (Slot.null bucket.scheme) := by
  obtain ⟨sent, hentombs, hshows⟩ := Store.entombs_replaced h hstored
  obtain ⟨shown, hstep, hsent, hdone⟩ := exists_step_entombs
    (@ChangeCommand.ends_replaceBucket config session.clearEvents _ _ h hserial hstored
      hform hdeleted) (fun other => serial?_bindName) (fun scheme => by cases scheme <;> rfl) rfl
    hentombs
  exact ⟨shown, _, hstep, hdone, hsent ▸ hshows⟩

end Deletions

end Session

namespace Program

/-- Wherever a program gets that leaves calls to handles, the three ways to delete a bucket lead to
the same tombstone. To take the value out first spends two serial numbers, to replace the bucket
first spends two and leaves it with the first of them, and to mark it at once spends one. -/
theorem deletions_agree {program : Program} {steps : List Step} {session : Session} {name : String}
    {bucket : Handle} (hcalls : program.LeavesCalls) (hbody : program.body = (steps, .ok session))
    (hfound : session.handle? name = some bucket) (hform : bucket.form = .pointer)
    (hdeleted : bucket.slot.isDeleted = false) :
    (∃ shown after, session.step program.config
        (Command.run program.config (.change (.vacateBucket name))) = .ok (shown, after) ∧
      session.Entombs program.config name bucket bucket.serial 2 shown after) ∧
    (∃ shown after, session.step program.config
        (Command.run program.config (.change (.replaceBucket name))) = .ok (shown, after) ∧
      session.Entombs program.config name bucket session.store.nextSerial 2 shown after) ∧
    (∃ shown after, session.step program.config
        (Command.run program.config (.change (.markDeleted name))) = .ok (shown, after) ∧
      session.Entombs program.config name bucket bucket.serial 1 shown after) := by
  have h := (reached_of_body hcalls hbody).sound.clearEvents.consistent
  obtain ⟨hserial, hstored⟩ := Session.handle?_eq_some hfound
  obtain ⟨vacating, vacated, hvacated, hvacates, -⟩ :=
    @Session.exists_step_vacateBucket program.config session name bucket h hserial hstored hform
      hdeleted
  obtain ⟨replacing, replaced, hreplaced, hreplaces, -⟩ :=
    @Session.exists_step_replaceBucket program.config session name bucket h hserial hstored hform
      hdeleted
  exact ⟨⟨vacating, vacated, hvacated, hvacates⟩, ⟨replacing, replaced, hreplaced, hreplaces⟩,
    @Session.exists_step_markDeleted program.config session name bucket h hserial hstored hform⟩

/-- A program with a packed pointer to a referent and a copy of it. -/
def deletionExample : Program where
  config := ⟨⟨true, true⟩, .ordinary, .trace⟩
  commands :=
    [.onReferent (.create "a" 1 none), .onHandle (.hold .pointer "p" .packed "a"),
      .onHandle (.copy "q" "p")]

/-- After that program the copy, which bears the serial number two, becomes a tombstone in each of
the three ways, as itself or as the handle with the serial number three. -/
theorem deletions_agree_deletionExample :
    deletionExample.body = (deletionExample.body.1, .ok deletionExample.final) ∧
      ∃ bucket, deletionExample.final.handle? "q" = some bucket ∧
        (∃ shown after, deletionExample.final.step deletionExample.config
            (Command.run deletionExample.config (.change (.vacateBucket "q"))) =
              .ok (shown, after) ∧
          deletionExample.final.Entombs deletionExample.config "q" bucket 2 2 shown after) ∧
        (∃ shown after, deletionExample.final.step deletionExample.config
            (Command.run deletionExample.config (.change (.replaceBucket "q"))) =
              .ok (shown, after) ∧
          deletionExample.final.Entombs deletionExample.config "q" bucket 3 2 shown after) ∧
        ∃ shown after, deletionExample.final.step deletionExample.config
            (Command.run deletionExample.config (.change (.markDeleted "q"))) =
              .ok (shown, after) ∧
          deletionExample.final.Entombs deletionExample.config "q" bucket 2 1 shown after := by
  have hcalls : deletionExample.LeavesCalls := by
    simp [LeavesCalls, deletionExample, Command.isCall]
  have hbody : deletionExample.body = (deletionExample.body.1, .ok deletionExample.final) := rfl
  have hbucket : (deletionExample.final.handle? "q").map
      (fun bucket => (bucket.serial, bucket.form, bucket.slot.isDeleted)) =
        some (2, .pointer, false) := rfl
  obtain ⟨bucket, hfound, hwhat⟩ := Option.map_eq_some_iff.mp hbucket
  obtain ⟨hserial, hrest⟩ := Prod.mk.inj hwhat
  obtain ⟨hform, hdeleted⟩ := Prod.mk.inj hrest
  have hagree := deletions_agree hcalls hbody hfound hform hdeleted
  rw [hserial] at hagree
  exact ⟨hbody, bucket, hfound, hagree⟩

end Program

end CountedHandles
