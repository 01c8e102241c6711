import CountedHandles.Proofs.Acquisition
import CountedHandles.Proofs.Permission

/-!
# Settlement

Whatever gives a handle a new value, and whatever the old and the new value are, comes to the same
in the end: the handle has the value, the one that has given it away is empty, each referent counts
and lists what the two values say, and one serial number has been spent.
-/

namespace CountedHandles

/-- What becomes of a handle when a handle gets a new value. -/
def Reassignment.settle (change : Reassignment) (handle : Handle) : Handle :=
  if handle.serial = change.handle.serial then { handle with slot := change.value }
  else if change.giver? = some handle.serial then { handle with slot := Slot.null handle.scheme }
  else handle

/-- What becomes of a referent when a handle gets a new value, and the next serial number has been
spent on it. -/
structure Reassignment.Settles (config : Config) (change : Reassignment) (next : Serial)
    (referent later : Referent) : Prop where
  /-- It stays what it is apart from the handles that hold it. -/
  bare_eq : later.bare = referent.bare
  /-- It counts the handle no more if that held it, and counts it again if that holds it now, unless
  another handle has given it away. -/
  count_eq : later.count + (if change.handle.address = referent.address then 1 else 0) =
    referent.count + if change.giver? = none ∧ change.value.address = referent.address then 1 else 0
  /-- Its roster drops the giver. If either of the two values is the referent, but not both, the
  handle is dropped as well, or entered as one to which the value was moved. All other entries stay.
  -/
  provenance?_eq : ∀ s, later.roster.provenance? s =
    if change.giver? = some s then none
    else if s = change.handle.serial ∧
        ¬ (change.handle.address = referent.address ↔ change.value.address = referent.address) then
      if config.listsHolders = true ∧ change.value.address = referent.address then
        some (.moved next)
      else none
    else referent.roster.provenance? s

/-- What becomes of a store when a handle gets a new value. -/
structure Store.Settles (config : Config) (store : Store) (change : Reassignment) (after : Store) :
    Prop where
  /-- One serial number has been spent. -/
  nextSerial_eq : after.nextSerial = store.nextSerial + 1
  /-- The handle has the value and the giver is empty. -/
  handle?_eq : ∀ s, after.handle? s = (store.handle? s).map change.settle
  /-- The referents count and list the handles accordingly. -/
  referents : List.Forall₂ (change.Settles config store.nextSerial) store.referents after.referents

namespace Store

variable {config : Config} {store between after : Store} {change : Reassignment}

namespace Acquires

variable (h : store.Consistent config) (hacquires : store.Acquires config change between)

include h hacquires

/-- Once the handle has the value the store is consistent again. -/
theorem consistent_reassigned :
    (between.reassigned config change.handle.serial store.nextSerial).Consistent config :=
  ((h.course hacquires.course).swapped (hacquires.handle?_handle h)
    hacquires.temporary rfl).released _

/-- In the end the handle is found with the new value and the giver is found empty. -/
theorem handle?_reassigned {s : Serial} :
    (between.reassigned config change.handle.serial store.nextSerial).handle? s =
      (store.handle? s).map change.settle := by
  rw [handle?_eq_map_standing?, hacquires.standing?_reassigned h]
  split
  · rename_i hserial
    simp [hserial, hacquires.found, Reassignment.settle]
  · rename_i hserial
    cases hfound : store.handle? s with
    | none => simp [standing?, hfound]
    | some handle =>
      obtain rfl := serial_of_handle? hfound
      rw [standing?_of_handle? hfound, Option.map_some, Option.map_some, Reassignment.settle,
        if_neg hserial]
      split
      · rfl
      · rfl

/-- In the end the value is held once more, unless it has been given away, and the old value is held
once less. -/
theorem length_holders_reassigned {address : Address} (hsite : address ∈ store.sites) :
    ((between.reassigned config change.handle.serial store.nextSerial).holders address).length +
        (if change.handle.address = address then 1 else 0) =
      (store.holders address).length +
        if change.giver? = none ∧ change.value.address = address then 1 else 0 := by
  rw [← hacquires.length_holders address hsite]
  exact (h.course hacquires.course).length_holders_reassigned (hacquires.handle?_handle h)
    hacquires.temporary rfl

/-- In the end every referent counts and lists the handles accordingly. -/
theorem settles_referent {referent later : Referent} (hmem : referent ∈ store.referents)
    (hlater : later ∈
      (between.reassigned config change.handle.serial store.nextSerial).referents)
    (hbare : later.bare = referent.bare) :
    change.Settles config store.nextSerial referent later := by
  have hafter := hacquires.consistent_reassigned h
  refine ⟨hbare, ?_, fun s => ?_⟩
  · rw [(hafter.reflects later hlater).count_eq, (h.reflects referent hmem).count_eq,
      Referent.address_of_bare hbare]
    exact hacquires.length_holders_reassigned h (List.mem_map_of_mem hmem)
  · have hnew : store.nameAt? change.value = some referent.name ↔
        change.value.address = referent.address := h.nameAt?_eq_name_iff hmem
    have hold : store.nameAt? change.handle.slot = some referent.name ↔
        change.handle.address = referent.address := h.nameAt?_eq_name_iff hmem
    rw [hafter.provenance?_eq hlater, hacquires.standing?_reassigned h,
      Referent.name_of_bare hbare, h.provenance?_eq hmem]
    simp only [nameAt?_of_ground (hacquires.ground_reassigned h)]
    by_cases hserial : s = change.handle.serial
    · subst hserial
      simp only [if_pos, if_neg hacquires.giver_ne, standing?_of_handle? hacquires.found,
        Option.bind_some, hnew, hold, true_and]
      grind [Census.entry?, nameAt?_census]
    · rw [if_neg hserial]
      split
      · cases hgiver : store.standing? s with
        | none => rfl
        | some standing =>
          rw [Option.map_some, Option.bind_some, Standing.emptied, nameAt?_null]
          rfl
      · simp [hserial]

/-- Once the handle has the value the store has settled. -/
theorem settles_reassigned : store.Settles config change
    (between.reassigned config change.handle.serial store.nextSerial) := by
  refine ⟨?_, fun s => hacquires.handle?_reassigned h,
    forall₂_of_map_eq (hacquires.ground_reassigned h) fun referent hmem later hlater hbare =>
      hacquires.settles_referent h hmem hlater hbare⟩
  simp [reassigned, released, hacquires.nextSerial_eq]

end Acquires

/-- A store in which a handle gets a new value settles, whichever way it came by it. -/
theorem Reassigns.settles (hchange : store.Reassigns config change after)
    (h : store.Consistent config) : store.Settles config change after := by
  obtain ⟨between, hacquires, rfl⟩ := hchange.exists_acquires h
  exact hacquires.settles_reassigned h

end Store

namespace Session

variable {config : Config} {session : Session} {command : ChangeCommand} {name : String}
  {change : Reassignment}

/-- A command that comes to a reassignment misuses no handle. -/
theorem misuse?_of_reassignment? (h : session.reassignment? command = some change) :
    session.misuse? (.change command) = none := by
  cases command with
  | pointAtAddress name place =>
    obtain ⟨hfound, hgiven⟩ := (reassignment?_eq_some_iff rfl).mp h
    obtain ⟨slot, hslot, -⟩ := Option.map_eq_some_iff.mp hgiven
    obtain ⟨address, haddress, hfits⟩ := Option.bind_eq_some_iff.mp hslot
    rw [misuse?, hfound, Option.bind_some, Option.eq_none_iff_forall_ne_some]
    intro cause hmisuse
    obtain ⟨given, rfl, herror⟩ := Place.misuse?_eq_some_iff.mp hmisuse
    cases haddress
    rw [herror] at hfits
    cases hfits
  | vacateBucket name => cases h
  | replaceBucket name => cases h
  | swap first second => cases h
  | assignPointer target source => rfl
  | assignMove target source => rfl
  | assignHandle target source => rfl
  | pointAt target referent => rfl
  | clear target => rfl
  | markDeleted target => rfl

/-- A command that is for one handle gives it a new value as a step, unless the session declines it
and nothing changes. -/
theorem Holding.exists_step_reassign (h : session.Sound config)
    (hreassigns : command.reassigns? = some name) :
    ∃ shown after, session.step config (Command.run config (.change command)) = .ok (shown, after) ∧
      shown.events = after.store.events ∧
      (session.Permits command ∧ session.misuse? (.change command) = none ∧
          shown.outcome = .answered .nothing ∧ session.clearEvents.Reassigns config command after ∨
        session.Declines command shown.outcome ∧ after = session.clearEvents) := by
  have hends := @step_of_ends config _ _ _ _
    ((ChangeCommand.ends_reassign command h.clearEvents hreassigns).and
      (ChangeCommand.ends_run_permits command h.clearEvents))
  change ∃ shown after, session.step config (command.run config) = .ok (shown, after) ∧ _
  split at hends
  · rename_i shown after hstep
    refine ⟨shown, after, hstep, events_of_step hstep, ?_⟩
    rcases hends with ⟨_, rfl, ⟨rfl, hchange⟩, hpermits⟩ | ⟨refusal, rfl, rfl, hpermits⟩ |
      ⟨cause, rfl, ⟨rfl, hmisuse⟩, hpermits⟩
    · obtain ⟨change, store, hcomes, hstore, hafter⟩ := hchange
      exact Or.inl ⟨hpermits, misuse?_of_reassignment? hcomes, rfl, change, store, hcomes, hstore,
        hafter⟩
    · exact Or.inr ⟨.refused (hpermits.mp ⟨refusal, rfl⟩), rfl⟩
    · have hnot : ¬ ∃ refusal, Stop.fault (.panic cause) = .refused refusal := by simp
      exact Or.inr ⟨.misused (not_not.mp (mt hpermits.mpr hnot)) hmisuse, rfl⟩
  · rcases hends with ⟨_, _, -, hcut, -⟩ | ⟨_, -, hcut, -⟩
    · exact hcut.elim
    · exact hcut.elim

end Session

namespace Program

/-- Wherever a program gets that leaves calls to handles, a command that is for one handle is
answered if it is permitted and misuses no handle, and then that handle has its new value, the giver
is empty, every referent counts and lists the handles accordingly, and one serial number has been
spent. Otherwise it panics or is refused, and nothing changes. -/
theorem reassignment_settles {program : Program} {steps : List Step} {session : Session}
    {command : ChangeCommand} {name : String} (hcalls : program.LeavesCalls)
    (hbody : program.body = (steps, .ok session))
    (hreassigns : command.reassigns? = some name) :
    ∃ shown after,
      session.step program.config (Command.run program.config (.change command)) =
        .ok (shown, after) ∧
      (session.Permits command ∧ session.misuse? (.change command) = none ∧
          shown.outcome = .answered .nothing ∧ after = { session with store := after.store } ∧
          (∃ change, session.reassignment? command = some change ∧
            session.handle? name = some change.handle ∧
            session.store.Settles program.config change after.store) ∨
        session.Declines command shown.outcome ∧ after = session.clearEvents) := by
  have hsound := (reached_of_body hcalls hbody).sound
  obtain ⟨shown, after, hstep, -, hdone⟩ := hsound.exists_step_reassign hreassigns
  refine ⟨shown, after, hstep, hdone.imp_left ?_⟩
  rintro ⟨hpermits, hmisuse, hanswer, change, store, hchange, hstore, rfl⟩
  have hsettles := hstore.settles hsound.clearEvents.consistent
  exact ⟨hpermits, hmisuse, hanswer, rfl, change, hchange,
    ((Session.reassignment?_eq_some_iff hreassigns).mp hchange).1, hsettles.nextSerial_eq,
    hsettles.handle?_eq, hsettles.referents⟩

/-- A program with pointers to two referents, each of which has been copied once. -/
def settlementExample : Program where
  config := ⟨⟨true, true⟩, .ordinary, .off⟩
  commands :=
    [.onReferent (.create "a" 1 none), .onReferent (.create "b" 2 none),
      .onHandle (.hold .pointer "p" .packed "a"), .onHandle (.hold .pointer "q" .packed "b"),
      .onHandle (.copy "r" "q")]

/-- After that program a pointer to the first referent can take the value of one to the second,
which is then counted as often as before and lists the first pointer as the heir of the temporary
one. A pointer is not permitted to take its own value. -/
theorem reassignment_settles_settlementExample :
    settlementExample.body = (settlementExample.body.1, .ok settlementExample.final) ∧
      ¬ settlementExample.final.Permits (.assignMove "p" "p") ∧
      ∃ shown after change, settlementExample.final.Permits (.assignMove "p" "q") ∧
        settlementExample.final.step settlementExample.config
          (Command.run settlementExample.config (.change (.assignMove "p" "q"))) =
            .ok (shown, after) ∧
        shown.counts = [some 0, some 2] ∧
        settlementExample.final.reassignment? (.assignMove "p" "q") = some change ∧
        (change.handle.serial, change.giver?) = (1, some 2) ∧
        settlementExample.final.store.Settles settlementExample.config change after.store := by
  have hcalls : settlementExample.LeavesCalls := by
    simp [LeavesCalls, settlementExample, Command.isCall]
  have hbody : settlementExample.body =
      (settlementExample.body.1, .ok settlementExample.final) := rfl
  obtain ⟨shown, after, hstep, hdone⟩ :=
    @reassignment_settles _ _ _ (.assignMove "p" "q") "p" hcalls hbody rfl
  have hshown : (settlementExample.final.step settlementExample.config
      (Command.run settlementExample.config (.change (.assignMove "p" "q")))).toOption.map
        (fun done => (done.1.outcome, done.1.counts)) =
      some (.answered .nothing, [some 0, some 2]) := rfl
  rw [hstep] at hshown
  obtain ⟨hanswer, hcounts⟩ := Prod.mk.inj (Option.some.inj hshown)
  have hself : ¬ settlementExample.final.Permits (.assignMove "p" "p") := by
    rintro ⟨a, b, -, -, hne, -⟩
    exact hne rfl
  rcases hdone with ⟨hpermits, -, -, -, change, hchange, -, hsettles⟩ | ⟨hdeclines, -⟩
  · have hwho : (settlementExample.final.reassignment? (.assignMove "p" "q")).map
        (fun change => (change.handle.serial, change.giver?)) = some (1, some 2) := rfl
    rw [hchange] at hwho
    exact ⟨hbody, hself, shown, after, change, hpermits, hstep, hcounts, hchange,
      Option.some.inj hwho, hsettles⟩
  · rw [hanswer] at hdeclines
    cases hdeclines

end Program

end CountedHandles
