import CountedHandles.Proofs.Tombstones

/-!
# Exposure

A referent that is called may look at all handles and at the counts of all referents. This file says
what there is to see while a handle gets a new value: the new value is acquired before the old one
is released, so that no call shows the handle without either, and no count is ever lower than it has
to be.
-/

namespace CountedHandles

/-- A call by which a handle that has its new value gives up the old one. -/
structure Reassignment.Yields (change : Reassignment) (store : Store) (call : Call)
    (moment : Moment) : Prop where
  /-- It gives a handle up. -/
  releases : call.message.releases = true
  /-- The handle has the new value by then. -/
  slot?_eq : moment.slot? change.handle.serial = some change.value
  /-- It goes to the referent that is the old value. -/
  reaches : store.target? change.handle.serial = some call.referent

/-- The events in the course of which a handle gets a new value, and what they can show. -/
structure Reassignment.AcquiresFirst (config : Config) (change : Reassignment) (store : Store)
    (sent : List Event) : Prop where
  /-- All calls by which the handle comes to hold the new value are made before those by which it
  gives up the old one. -/
  ordered : ∃ first last, sent = first ++ last ∧
    (∀ call moment, .call call moment ∈ first → change.Gains store call moment) ∧
    ∀ call moment, .call call moment ∈ last → change.Yields store call moment
  /-- Whatever part of the events has happened, no count is below both its first and its last
  value. -/
  covered : ∀ referent ∈ store.referents, ∀ past, past <+: sent →
    min referent.count (referent.hear config sent).count ≤ (referent.hear config past).count
  /-- If the handle has the new value already, no count falls below its first value, except that a
  handle which gives that value away is counted no more. -/
  sustained : change.value.address = change.handle.address →
    ∀ referent ∈ store.referents, ∀ past, past <+: sent →
      referent.count ≤ (referent.hear config past).count +
        if change.giver? = none then 0 else 1

/-- If the handle has the value already, a referent counts only one less that gives it away. -/
theorem Reassignment.Settles.count_le {config : Config} {change : Reassignment} {next : Serial}
    {referent later : Referent} (h : change.Settles config next referent later)
    (hsame : change.value.address = change.handle.address) :
    referent.count ≤ later.count + if change.giver? = none then 0 else 1 := by
  have hcount := h.count_eq
  rw [hsame] at hcount
  by_cases hgiver : change.giver? = none
  · simp only [hgiver, true_and] at hcount
    rw [if_pos hgiver]
    omega
  · simp only [hgiver, false_and, if_false] at hcount
    rw [if_neg hgiver]
    split at hcount
    · omega
    · omega

/-- Where handles are given up only after all others have been acquired, a count is never below both
its first and its last value. -/
theorem Referent.min_count_hear_le {config : Config} {referent : Referent}
    {first last past : List Event}
    (hfirst : ∀ call moment, .call call moment ∈ first → call.message.releases = false)
    (hlast : ∀ call moment, .call call moment ∈ last → call.message.releases = true)
    (hpast : past <+: first ++ last) :
    min referent.count (referent.hear config (first ++ last)).count ≤
      (referent.hear config past).count := by
  have hheard := hpast.filterMap (Event.messageTo? referent.name)
  rw [List.filterMap_append] at hheard
  rw [hear, hear, List.filterMap_append]
  refine min_count_le (fun hmem => ?_) (fun hmem => ?_) hheard
  · obtain ⟨moment, hcall⟩ := Event.mem_filterMap_messageTo?.mp hmem
    exact absurd (hfirst _ _ hcall) (by simp [Message.releases])
  · obtain ⟨moment, hcall⟩ := Event.mem_filterMap_messageTo?.mp hmem
    exact absurd (hlast _ _ hcall) (by simp [Message.releases])

namespace Store

variable {config : Config} {store after : Store} {change : Reassignment} {sent : List Event}

/-- Every referent settles by what it hears. -/
theorem Settles.settles_hear (hsettles : store.Settles config change after)
    (hdelivers : Delivers config store sent after) {referent : Referent}
    (hmem : referent ∈ store.referents) :
    change.Settles config store.nextSerial referent (referent.hear config sent) := by
  have hreferents := hsettles.referents
  rw [hdelivers.referents_eq, List.forall₂_map_right_iff, List.forall₂_same] at hreferents
  exact hreferents referent hmem

/-- A handle that gets a new value acquires it first, whichever way it comes by it. -/
theorem Reassigns.acquiresFirst (hchange : store.Reassigns config change after)
    (h : store.Consistent config) :
    ∃ sent, Delivers config store sent after ∧ change.AcquiresFirst config store sent := by
  have hsettles := hchange.settles h
  obtain ⟨between, hacquires, rfl⟩ := hchange.exists_acquires h
  obtain ⟨first, moment, hdelivers, hshown, hgains⟩ := hacquires.delivers_reassigned h
  have hyields : ∀ call shown, .call call shown ∈ config.told (store.target? change.handle.serial)
      [.notice (.unregister store.nextSerial), .decrement] moment →
      change.Yields store call shown := fun call shown hmem => by
    obtain ⟨rfl, hreaches, hmessage⟩ := Config.mem_told hmem
    refine ⟨?_, hshown, hreaches⟩
    rcases List.mem_pair.mp hmessage with hmessage | hmessage
    · rw [hmessage]
      rfl
    · rw [hmessage]
      rfl
  have hcovered (referent : Referent) (past : List Event) (hpast) :=
    @Referent.min_count_hear_le config referent _ _ past
      (fun call shown hmem => (hgains call shown hmem).keeps)
      (fun call shown hmem => (hyields call shown hmem).releases) hpast
  refine ⟨_, hdelivers, ⟨_, _, rfl, hgains, hyields⟩, fun referent _ past hpast =>
    hcovered referent past hpast, fun hsame referent hmem past hpast => ?_⟩
  -- The value is held again in the end, so the last count bounds all that come before it.
  have hlast := (hsettles.settles_hear hdelivers hmem).count_le hsame
  have hleast := hcovered referent past hpast
  omega

end Store

namespace Program

/-- Wherever a program gets that leaves calls to handles, a command that is for one handle is
answered if it is permitted and misuses no handle, and then the handle has acquired its new value
before it has released the old one. Otherwise it panics or is refused and calls no one. A bucket
that is deleted by one of the ways that empty it first is empty whenever a referent is called, and
deleted only in the end. -/
theorem reassignment_acquires_first {program : Program} {steps : List Step} {session : Session}
    (hcalls : program.LeavesCalls) (hbody : program.body = (steps, .ok session)) :
    (∀ command name, command.reassigns? = some name → ∃ shown after,
      session.step program.config (Command.run program.config (.change command)) =
        .ok (shown, after) ∧
      (session.Permits command ∧ session.misuse? (.change command) = none ∧
          shown.outcome = .answered .nothing ∧
          (∃ change, session.reassignment? command = some change ∧
            session.handle? name = some change.handle ∧
            Store.Delivers program.config session.clearEvents.store shown.events after.store ∧
            change.AcquiresFirst program.config session.clearEvents.store shown.events) ∨
        session.Declines command shown.outcome ∧ shown.events = [] ∧
          after = session.clearEvents)) ∧
    ∀ name bucket, session.handle? name = some bucket → bucket.form = .pointer →
      bucket.slot.isDeleted = false →
      (∃ shown after, session.step program.config
          (Command.run program.config (.change (.vacateBucket name))) = .ok (shown, after) ∧
        session.Entombs program.config name bucket bucket.serial 2 shown after ∧
        ∀ call moment, .call call moment ∈ shown.events →
          Moment.slot? moment bucket.serial = some (Slot.null bucket.scheme)) ∧
      ∃ shown after, session.step program.config
          (Command.run program.config (.change (.replaceBucket name))) = .ok (shown, after) ∧
        session.Entombs program.config name bucket session.store.nextSerial 2 shown after ∧
        ∀ call moment, .call call moment ∈ shown.events →
          Moment.slot? moment session.store.nextSerial = some (Slot.null bucket.scheme) := by
  have hsound := (reached_of_body hcalls hbody).sound
  refine ⟨fun command name hreassigns => ?_, fun name bucket hfound hform hdeleted => ?_⟩
  · obtain ⟨shown, after, hstep, hevents, hdone⟩ := hsound.exists_step_reassign hreassigns
    refine ⟨shown, after, hstep, hdone.imp ?_ ?_⟩
    · rintro ⟨hpermits, hmisuse, hanswer, change, store, hchange, hstore, rfl⟩
      obtain ⟨sent, hdelivers, hfirst⟩ := hstore.acquiresFirst hsound.clearEvents.consistent
      have hsent : shown.events = sent := hevents.trans hdelivers.events_eq
      rw [← hsent] at hdelivers hfirst
      exact ⟨hpermits, hmisuse, hanswer, change, hchange,
        ((Session.reassignment?_eq_some_iff hreassigns).mp hchange).1, hdelivers, hfirst⟩
    · rintro ⟨hdeclines, rfl⟩
      exact ⟨hdeclines, hevents, rfl⟩
  · have h := hsound.clearEvents.consistent
    obtain ⟨hserial, hstored⟩ := Session.handle?_eq_some hfound
    exact ⟨Session.exists_step_vacateBucket h hserial hstored hform hdeleted,
      Session.exists_step_replaceBucket h hserial hstored hform hdeleted⟩

/-- A program with pointers to two referents. -/
def exposureExample : Program where
  config := ⟨⟨true, true⟩, .ordinary, .off⟩
  commands :=
    [.onReferent (.create "a" 1 none), .onReferent (.create "b" 2 none),
      .onHandle (.hold .pointer "p" .packed "a"), .onHandle (.hold .pointer "q" .packed "b")]

/-- After that program a pointer to the first referent can be assigned one to the second. It holds
its new value when it gives up the old one by the last two of the six calls. -/
theorem reassignment_acquires_first_exposureExample :
    exposureExample.body = (exposureExample.body.1, .ok exposureExample.final) ∧
      ∃ shown after change, exposureExample.final.step exposureExample.config
          (Command.run exposureExample.config (.change (.assignPointer "p" "q"))) =
            .ok (shown, after) ∧
        shown.events.filterMap Event.call? =
          [⟨"b", .increment⟩, ⟨"b", .notice (.copy 2 3)⟩, ⟨"b", .notice (.move 3 1)⟩,
            ⟨"a", .notice (.move 1 3)⟩, ⟨"a", .notice (.unregister 3)⟩, ⟨"a", .decrement⟩] ∧
        exposureExample.final.reassignment? (.assignPointer "p" "q") = some change ∧
        change.AcquiresFirst exposureExample.config exposureExample.final.clearEvents.store
          shown.events := by
  have hcalls : exposureExample.LeavesCalls := by
    simp [LeavesCalls, exposureExample, Command.isCall]
  have hbody : exposureExample.body = (exposureExample.body.1, .ok exposureExample.final) := rfl
  obtain ⟨shown, after, hstep, hdone⟩ :=
    (reassignment_acquires_first hcalls hbody).1 (.assignPointer "p" "q") "p" rfl
  have hshown : (exposureExample.final.step exposureExample.config
      (Command.run exposureExample.config (.change (.assignPointer "p" "q")))).toOption.map
        (fun done => (done.1.outcome, done.1.events.filterMap Event.call?)) =
      some (.answered .nothing,
        [⟨"b", .increment⟩, ⟨"b", .notice (.copy 2 3)⟩, ⟨"b", .notice (.move 3 1)⟩,
          ⟨"a", .notice (.move 1 3)⟩, ⟨"a", .notice (.unregister 3)⟩, ⟨"a", .decrement⟩]) := rfl
  rw [hstep] at hshown
  obtain ⟨hanswer, hevents⟩ := Prod.mk.inj (Option.some.inj hshown)
  rcases hdone with ⟨-, -, -, change, hchange, -, -, hfirst⟩ | ⟨hdeclines, -⟩
  · exact ⟨hbody, shown, after, change, hstep, hevents, hchange, hfirst⟩
  · rw [hanswer] at hdeclines
    cases hdeclines

end Program

end CountedHandles
