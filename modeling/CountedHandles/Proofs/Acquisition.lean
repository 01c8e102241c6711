import CountedHandles.Proofs.Deliveries
import CountedHandles.Proofs.Revisions

/-!
# Acquisition

A handle that gets a new value acquires it through a temporary handle before it gives the old value
up. This file describes the store at the moment when the temporary handle has the value, whichever
way it came by it, and derives from that how the store stands in the end and which calls are made
with which handles on the way.
-/

namespace CountedHandles

/-- How a handle stands that has been emptied. -/
def Standing.emptied (standing : Standing) : Standing :=
  ⟨standing.form, Slot.null standing.slot.scheme, none⟩

/-- A call by which a handle that is to get a new value comes to hold it. -/
structure Reassignment.Gains (change : Reassignment) (store : Store) (call : Call)
    (moment : Moment) : Prop where
  /-- It does not give a handle up. -/
  keeps : call.message.releases = false
  /-- The handle has the old or the new value by then. -/
  slot?_eq : moment.slot? change.handle.serial = some change.handle.slot ∨
    moment.slot? change.handle.serial = some change.value
  /-- Only the referent that is the new value is told to count. -/
  recounts : call.message.recounts = true → store.nameAt? change.value = some call.referent
  /-- It goes to the referent that is the new or the old value. -/
  reaches : store.nameAt? change.value = some call.referent ∨
    store.target? change.handle.serial = some call.referent

namespace Store

/-- Deliveries change only what referents know of handles. -/
theorem Delivers.ground_eq {config : Config} {before after : Store} {sent : List Event}
    (h : Delivers config before sent after) :
    after.referents.map Referent.bare = before.referents.map Referent.bare := by
  rw [h.referents_eq, List.map_map]
  exact List.map_congr_left fun _ _ => Referent.bare_receiveAll

/-- A temporary handle has been given the value that another handle is to get. -/
structure Acquires (config : Config) (store : Store) (change : Reassignment) (between : Store) :
    Prop where
  /-- The handle that is to get the value exists. -/
  found : store.handle? change.handle.serial = some change.handle
  /-- It is not the one that gives the value away. -/
  giver_ne : change.giver? ≠ some change.handle.serial
  /-- It has taken acts of handles to get here. -/
  course : Course config store between
  /-- One serial number has been given out. -/
  nextSerial_eq : between.nextSerial = store.nextSerial + 1
  /-- The temporary handle has the value. -/
  temporary : between.handle? store.nextSerial =
    some ⟨store.nextSerial, change.handle.form, change.value⟩
  /-- All others stand as before, except for the one that has given the value away. -/
  standing?_eq : ∀ s ≠ store.nextSerial, between.standing? s =
    if change.giver? = some s then (store.standing? s).map Standing.emptied else store.standing? s
  /-- The value is held once more, unless it has been given away. -/
  length_holders : ∀ address ∈ store.sites, (between.holders address).length =
    (store.holders address).length +
      if change.giver? = none ∧ change.value.address = address then 1 else 0
  /-- The calls go to the referent that is the value and show the handles as they are now, and none
  gives a handle up. -/
  delivers : ∃ sent, Delivers config store sent between ∧ ∀ call moment,
    .call call moment ∈ sent → moment = between.handles ∧ call.message.releases = false ∧
      store.nameAt? change.value = some call.referent

variable {config : Config} {store between after : Store} {change : Reassignment}

/-- A handle that gets a new value has it from a temporary handle, which goes with the old one. -/
theorem Reassigns.exists_acquires (hchange : store.Reassigns config change after)
    (h : store.Consistent config) :
    ∃ between, store.Acquires config change between ∧
      after = between.reassigned config change.handle.serial store.nextSerial := by
  cases hchange with
  | renew found scheme_eq settled provenance_eq =>
    rename_i handle slot provenance
    have hfresh : ∀ source, provenance ≠ .moved source := by
      rcases provenance_eq with rfl | ⟨source, -, -, rfl⟩ <;> simp
    refine ⟨_, ⟨found, by simp, .single (.create settled provenance_eq), nextSerial_created,
      handle?_created_nextSerial h.toWellFormed, fun s hne => ?_, fun address _ => ?_, ?_⟩, rfl⟩
    · rw [h.standing?_created hfresh, if_neg hne]
      rfl
    · simpa using length_holders_created
    · refine ⟨_, Delivers.created, fun call moment hmem => ?_⟩
      obtain ⟨rfl, hname, hmessage⟩ := Config.mem_told (List.mem_of_ne_of_mem (by simp) hmem)
      exact ⟨by simp [created], Provenance.releases_of_mem hmessage, hname⟩
  | move found_first found_second first_form second_form scheme_eq ne =>
    rename_i first second
    refine ⟨_, ⟨found_first, ?_, .movedOut h.toWellFormed found_second second_form, ?_, ?_,
      fun s hne => ?_, fun address hsite => ?_, ?_⟩, rfl⟩
    · simpa using Ne.symm ne
    · rw [movedOut, nextSerial_swapped, nextSerial_created]
    · rw [handle?_movedOut_nextSerial h found_second, first_form]
      rfl
    · rw [h.standing?_movedOut found_second, if_neg hne]
      by_cases hgiver : s = second.serial
      · rw [hgiver, if_pos rfl, if_pos rfl, standing?_of_handle? found_second]
        rfl
      · have hother : ¬ some second.serial = some s := by simpa using Ne.symm hgiver
        rw [if_neg hgiver, if_neg hother]
    · simpa using h.length_holders_movedOut found_second hsite
    · obtain ⟨sent, hdelivers, hcalls⟩ := @Delivers.movedOut config store second.scheme
        second.serial
      refine ⟨sent, hdelivers, fun call moment hmem => ?_⟩
      have hcall := hcalls call moment hmem
      refine ⟨hcall.moment_eq, hcall.quiet.1, ?_⟩
      rcases hcall.reaches with hname | hname
      · rwa [target?_of_handle? (handle?_movedOut_nextSerial h found_second),
          nameAt?_of_ground hdelivers.ground_eq] at hname
      · rw [target?_of_handle? (handle?_movedOut h found_second), nameAt?_null] at hname
        cases hname

namespace Acquires

/-- The referents are as they were apart from the handles that hold them. -/
theorem ground_eq (hacquires : store.Acquires config change between) :
    between.referents.map Referent.bare = store.referents.map Referent.bare := by
  obtain ⟨sent, hdelivers, -⟩ := hacquires.delivers
  exact hdelivers.ground_eq

variable (h : store.Consistent config) (hacquires : store.Acquires config change between)

include h hacquires

/-- The temporary handle is another one. -/
theorem ne_temporary : change.handle.serial ≠ store.nextSerial :=
  h.ne_nextSerial hacquires.found

/-- The handle that is to get the value stands as before. -/
theorem standing?_handle :
    between.standing? change.handle.serial = store.standing? change.handle.serial := by
  rw [hacquires.standing?_eq _ (hacquires.ne_temporary h), if_neg hacquires.giver_ne]

/-- The handle that is to get the value is found as it was. -/
theorem handle?_handle : between.handle? change.handle.serial = some change.handle := by
  rw [handle?_eq_map_standing?, hacquires.standing?_handle h, ← handle?_eq_map_standing?,
    hacquires.found]

/-- In the end the handle stands with the new value, which it has from the temporary handle unless
it has not changed, and the giver has been emptied. -/
theorem standing?_reassigned {s : Serial} :
    (between.reassigned config change.handle.serial store.nextSerial).standing? s =
      if s = change.handle.serial then
        some ⟨change.handle.form, change.value,
          if store.nameAt? change.value = store.nameAt? change.handle.slot then
            store.origin? change.handle.serial
          else store.census.entry? config change.value (.moved store.nextSerial)⟩
      else if change.giver? = some s then (store.standing? s).map Standing.emptied
      else store.standing? s := by
  have hground := hacquires.ground_eq
  have hstands := hacquires.standing?_handle h
  rw [standing?_of_handle? (hacquires.handle?_handle h),
    standing?_of_handle? hacquires.found] at hstands
  rw [(h.course hacquires.course).standing?_reassigned (hacquires.handle?_handle h)
    hacquires.temporary]
  split
  · -- The temporary handle is gone again, as it was before it came.
    rename_i htemporary
    rw [htemporary, if_neg (hacquires.ne_temporary h).symm, h.standing?_nextSerial,
      Option.map_none, ite_self]
  split
  · rw [givenBy, nameAt?_of_ground hground, nameAt?_of_ground hground, entry?_of_ground hground,
      (Standing.mk.inj (Option.some.inj hstands)).2.2]
  · rename_i hother _
    exact hacquires.standing?_eq s hother

/-- The target of the handle is as before while the temporary handle has the value. -/
theorem target?_handle :
    between.target? change.handle.serial = store.target? change.handle.serial := by
  rw [target?_of_handle? (hacquires.handle?_handle h), target?_of_handle? hacquires.found,
    nameAt?_of_ground hacquires.ground_eq]

/-- The calls that acquire the new value come first, and then the referent of the old one, if there
is one, is told that it is released. -/
theorem delivers_reassigned :
    ∃ first moment, Delivers config store
        (first ++ config.told (store.target? change.handle.serial)
          [.notice (.unregister store.nextSerial), .decrement] moment)
        (between.reassigned config change.handle.serial store.nextSerial) ∧
      Moment.slot? moment change.handle.serial = some change.value ∧
      ∀ call shown, .call call shown ∈ first → change.Gains store call shown := by
  have hbetween := h.course hacquires.course
  have hfound := hacquires.handle?_handle h
  have hne := hacquires.ne_temporary h
  obtain ⟨gained, hgained, hgainedCalls⟩ := hacquires.delivers
  obtain ⟨exchanged, hexchanged, hexchangedCalls⟩ :=
    @Delivers.swapped config between change.handle.serial store.nextSerial
  have hswapped := (@handle?_swapped config _ _ _ _ _ hbetween.nodup_serials hfound
    hacquires.temporary).1
  have htemporary : (between.swapped config change.handle.serial store.nextSerial).target?
      store.nextSerial = store.target? change.handle.serial := by
    rw [hbetween.target?_swapped hfound hacquires.temporary, if_neg hne.symm, if_pos rfl,
      hacquires.target?_handle h]
  have hhandle : (between.swapped config change.handle.serial store.nextSerial).target?
      change.handle.serial = store.nameAt? change.value := by
    rw [hbetween.target?_swapped hfound hacquires.temporary, if_pos rfl,
      target?_of_handle? hacquires.temporary, nameAt?_of_ground hacquires.ground_eq]
  have hdelivers := (hgained.trans hexchanged).trans (@Delivers.released config _ store.nextSerial)
  rw [htemporary] at hdelivers
  refine ⟨gained ++ exchanged, _, hdelivers, ?_, fun call shown hmem => ?_⟩
  · rw [slot?_handles, handle?_removeHandle hne, hswapped, Option.map_some]
  · rcases List.mem_append.mp hmem with hmem | hmem
    · obtain ⟨rfl, hkeeps, hreaches⟩ := hgainedCalls call shown hmem
      refine ⟨hkeeps, Or.inl ?_, fun _ => hreaches, Or.inl hreaches⟩
      rw [slot?_handles, hfound, Option.map_some]
    · have hcall := hexchangedCalls call shown hmem
      refine ⟨hcall.quiet.1, Or.inr ?_, fun hrecounts => ?_, ?_⟩
      · rw [hcall.moment_eq, slot?_handles, hswapped, Option.map_some]
      · rw [hcall.quiet.2] at hrecounts
        cases hrecounts
      · rw [← hhandle, ← htemporary]
        exact hcall.reaches

/-- In the end the referents are as they were apart from the handles that hold them. -/
theorem ground_reassigned :
    (between.reassigned config change.handle.serial store.nextSerial).referents.map Referent.bare =
      store.referents.map Referent.bare := by
  obtain ⟨first, moment, hdelivers, -⟩ := hacquires.delivers_reassigned h
  exact hdelivers.ground_eq

end Acquires

end Store

end CountedHandles
