import CountedHandles.Proofs.Rosters

/-!
# Panics

Misuse of a handle is the only cause of a panic in a program that leaves calls to handles, and it
always is one. Such a panic changes nothing: no handle, no count, no roster and no serial number,
and nothing happens on the way to it. Counts never run low, and rosters never raise an objection and
are never borrowed twice.
-/

namespace CountedHandles

namespace Turn

/-- An address without room in a slot is found out without any change. -/
theorem exists_run_resolveFor {scheme : Scheme} {place : Place} {cause : Panic}
    (h : place.misuse? scheme = some cause) :
    ∃ address, Slot.ofAddress scheme address = .error cause ∧
      ∀ form session, resolveFor form scheme place session = .ok address session := by
  obtain ⟨address, rfl, hslot⟩ := Place.misuse?_eq_some_iff.mp h
  obtain ⟨rfl, hlarge, -⟩ := Slot.ofAddress_eq_error_iff.mp hslot
  refine ⟨address, hslot, fun form session => run_resolveFor rfl ?_⟩
  have hunfit : decide (SixBytes.Fits address) = false := by
    rw [decide_eq_false_iff_not]
    exact Nat.not_lt.mpr hlarge
  cases form <;> simp [Store.allows, hunfit]

end Turn

namespace Session

open Turn

variable {config : Config} {session after : Session} {command : Command} {cause : Panic}
  {shown : Step}

/-- A command that misuses a handle panics, and nothing changes. -/
theorem Holding.run_of_misuse (h : session.Sound config)
    (hmisuse : session.misuse? command = some cause) :
    command.run config session = .error (.fault (.panic cause)) session := by
  have hhandle {name : String} {handle : Handle} (hfound : session.handle? name = some handle) :
      session.store.handle? handle.serial = some handle := (handle?_eq_some hfound).2
  unfold misuse? at hmisuse
  split at hmisuse
  · rename_i form name scheme place
    obtain ⟨address, hslot, hresolve⟩ := exists_run_resolveFor hmisuse
    simp only [Command.run, HandleCommand.run, run_bind, hresolve, HandleCommand.keepNew, perform,
      Handle.run_ofAddress_of_error hslot]
  · rename_i name source
    obtain ⟨handle, hfound, hrelease⟩ := Option.bind_eq_some_iff.mp hmisuse
    simp only [Handle.releaseMisuse?, Option.ite_none_right_eq_some, Option.some.injEq] at hrelease
    obtain ⟨⟨hform, hvacant⟩, rfl⟩ := hrelease
    have hdead : handle.address ∉ session.store.sites := by
      intro hsite
      have htarget := Slot.target?_of_isSite (h.consistent.isSite _ hsite)
      rw [Slot.target?_eq_none_iff.mpr hvacant] at htarget
      cases htarget
    simp only [Command.run, HandleCommand.run, run_bind, run_pointer hfound hform,
      HandleCommand.keepNew, perform,
      Handle.run_toReference_of_vacant h.consistent (hhandle hfound) hdead]
  · rename_i name place
    obtain ⟨handle, hfound, hplace⟩ := Option.bind_eq_some_iff.mp hmisuse
    obtain ⟨address, hslot, hresolve⟩ := exists_run_resolveFor hplace
    simp only [Command.run, ChangeCommand.run, run_bind, run_handle hfound, hresolve,
      ChangeCommand.act, perform, Handle.run_pointAt_of_error hslot]
  · rename_i name
    obtain ⟨handle, hfound, hdeletion⟩ := Option.bind_eq_some_iff.mp hmisuse
    simp only [Handle.deletionMisuse?, Option.ite_none_right_eq_some, Option.some.injEq]
      at hdeletion
    obtain ⟨⟨hform, hdeleted⟩, rfl⟩ := hdeletion
    simp only [Command.run, ChangeCommand.run, run_bind, run_pointer hfound hform,
      ChangeCommand.act, perform, Handle.run_vacateBucket_of_deleted hdeleted]
  · rename_i name
    obtain ⟨handle, hfound, hdeletion⟩ := Option.bind_eq_some_iff.mp hmisuse
    simp only [Handle.deletionMisuse?, Option.ite_none_right_eq_some, Option.some.injEq]
      at hdeletion
    obtain ⟨⟨hform, hdeleted⟩, rfl⟩ := hdeletion
    simp only [Command.run, ChangeCommand.run, ChangeCommand.runReplaceBucket, run_bind,
      run_pointer hfound hform, perform, Handle.run_requireNotDeleted, hdeleted, if_true]
  · cases hmisuse

/-- What misuses a handle does not depend on what has happened. -/
theorem misuse?_clearEvents : session.clearEvents.misuse? command = session.misuse? command := rfl

/-- A command that misuses a handle panics in a step without events, and nothing changes. -/
theorem Holding.step_of_misuse (h : session.Sound config)
    (hmisuse : session.misuse? command = some cause) :
    session.step config (command.run config) =
      .ok (⟨.panicked cause, session.counts, []⟩, session.clearEvents) := by
  rw [← misuse?_clearEvents] at hmisuse
  simp only [step, h.clearEvents.run_of_misuse hmisuse]
  rfl

/-- A command that panics misuses a handle. -/
theorem Holding.misuse_of_step (h : session.Sound config) (hcall : command.isCall = false)
    (hstep : session.step config (command.run config) = .ok (shown, after))
    (hpanic : shown.outcome = .panicked cause) : session.misuse? command = some cause := by
  have hends := @step_of_ends config _ _ _ _ (command.ends_run h.clearEvents hcall)
  rw [hstep] at hends
  rcases hends with ⟨answer, rfl, -⟩ | ⟨refusal, rfl, -⟩ | ⟨other, rfl, hcut⟩
  · cases hpanic
  · cases hpanic
  · cases hpanic
    rcases hcut with ⟨-, hmisuse⟩ | ⟨referent, -, -, hviolates⟩
    · exact hmisuse
    · exact hviolates.elim

/-- No command of a sound session collapses the run. -/
theorem Holding.step_ne_collapse (h : session.Sound config) (hcall : command.isCall = false) :
    session.step config (command.run config) ≠ .error .collapse := by
  intro hstep
  obtain ⟨referent, -, -, violation, -, hviolation⟩ := h.abortion_of_step hcall hstep
  cases hviolation

end Session

namespace Program

/-- Wherever a program gets that leaves calls to handles: a command panics exactly if it misuses a
handle, with the panic that answers the misuse, and nothing happens and nothing changes then; no
panic meets another one, and none of the handles that are dropped in the end panics. In builds that
track handles the notices to every referent can be followed one after the other without an objection
and without ever finding the roster borrowed, and the roster can be listed at any time between; in
builds that keep rosters this roster is the one that the referent has. -/
theorem panics_iff_misuse {program : Program} {steps : List Step} {session : Session}
    (hcalls : program.LeavesCalls) (hbody : program.body = (steps, .ok session)) :
    (∀ command, command.isCall = false →
      (∀ cause, (∃ shown after, session.step program.config (command.run program.config) =
          .ok (shown, after) ∧ shown.outcome = .panicked cause) ↔
        session.misuse? command = some cause) ∧
      (∀ cause, session.misuse? command = some cause →
        session.step program.config (command.run program.config) =
          .ok (⟨.panicked cause, session.counts, []⟩, session.clearEvents)) ∧
      session.step program.config (command.run program.config) ≠ .error .collapse) ∧
    (∃ shown after, session.step program.config (Session.dropHandles program.config) =
      .ok (shown, after) ∧ shown.outcome = .answered (.panics [])) ∧
    (program.config.build.tracking = true → ∀ name heard, heard <+: program.run.heard name →
      ∀ assertions, ∃ roster,
        RosterCell.followAll assertions (heard.filterMap Message.notice?) (.free .empty) =
            .ok () (.free roster) ∧
          RosterCell.list (.free roster) = .ok roster.listing (.free roster)) ∧
    (program.config.listsHolders = true → ∀ referent ∈ session.store.referents, ∀ assertions,
      RosterCell.followAll assertions
          ((Step.heard steps referent.name).filterMap Message.notice?) (.free .empty) =
        .ok () (.free referent.roster)) := by
  have hreached := reached_of_body hcalls hbody
  have hsound := hreached.sound
  refine ⟨fun command hcall => ⟨fun cause => ⟨?_, fun hmisuse => ?_⟩,
    fun cause => hsound.step_of_misuse, hsound.step_ne_collapse hcall⟩, ?_, ?_, ?_⟩
  · rintro ⟨shown, after, hstep, hpanic⟩
    exact hsound.misuse_of_step hcall hstep hpanic
  · exact ⟨_, _, hsound.step_of_misuse hmisuse, rfl⟩
  · exact ⟨_, _, hsound.step_dropHandles, rfl⟩
  · intro htracking name heard hheard assertions
    obtain ⟨last, hfollows⟩ := exists_follows htracking hcalls name
    obtain ⟨next, hnext⟩ := hfollows.of_prefix hheard
    obtain ⟨hfollowed, -⟩ := RosterCell.run_followAll assertions hnext Roster.contains_empty_iff
    exact ⟨_, hfollowed, RosterCell.run_list _⟩
  · intro hlists referent hmem assertions
    have htrail := Session.Trail.of_reached hreached
    have hfollows := htrail.follows (Bool.and_eq_true_iff.mp hlists).1 referent.name
    rw [htrail.charts hlists referent.name referent hmem rfl]
    exact (RosterCell.run_followAll assertions hfollows Roster.contains_empty_iff).1

/-- A program with a deleted bucket and a pointer that holds a referent. -/
def panicsExample : Program where
  config := ⟨⟨true, true⟩, .ordinary, .trace⟩
  commands :=
    [.onReferent (.create "a" 1 none), .onHandle (.hold .pointer "p" .packed "a"),
      .onHandle (.deleted "d" .packed)]

/-- After that program deleting the deleted bucket again, making a reference of it and packing the
reserved address panic without any change, while deleting the pointer or releasing it does not. The
roster of the referent is the one that its notices make. -/
theorem panics_panicsExample :
    panicsExample.body = (panicsExample.body.1, .ok panicsExample.final) ∧
      (∀ misused ∈ ([(.change (.vacateBucket "d"), .bucketDeleted),
          (.change (.replaceBucket "d"), .bucketDeleted),
          (.onHandle (.toReference "r" "d"), .releasedNull),
          (.change (.pointAtAddress "p" (.address 0xffffffffffff)),
            .doesNotFit 0xffffffffffff)] : List (Command × Panic)),
        panicsExample.final.step panicsExample.config (misused.1.run panicsExample.config) =
          .ok (⟨.panicked misused.2, [some 1], []⟩, panicsExample.final.clearEvents)) ∧
      (∀ command ∈ ([.change (.vacateBucket "p"), .onHandle (.toReference "r" "p")] :
          List Command), ∀ cause shown after, panicsExample.final.step panicsExample.config
            (command.run panicsExample.config) = .ok (shown, after) →
              shown.outcome ≠ .panicked cause) ∧
      ∀ referent ∈ panicsExample.final.store.referents, RosterCell.followAll true
        ((Step.heard panicsExample.body.1 referent.name).filterMap Message.notice?)
          (.free .empty) = .ok () (.free referent.roster) := by
  have hcalls : panicsExample.LeavesCalls := by
    simp [LeavesCalls, panicsExample, Command.isCall]
  have hbody : panicsExample.body = (panicsExample.body.1, .ok panicsExample.final) := rfl
  obtain ⟨hexact, -, -, hrosters⟩ := panics_iff_misuse hcalls hbody
  have hpanics {command : Command} {cause : Panic} (hcall : command.isCall = false)
      (hmisuse : panicsExample.final.misuse? command = some cause) :
      panicsExample.final.step panicsExample.config (command.run panicsExample.config) =
        .ok (⟨.panicked cause, [some 1], []⟩, panicsExample.final.clearEvents) :=
    (hexact command hcall).2.1 cause hmisuse
  have hgoes {command : Command} (hcall : command.isCall = false)
      (hnone : panicsExample.final.misuse? command = none) (cause : Panic) (shown : Step)
      (after : Session) (hstep : panicsExample.final.step panicsExample.config
        (command.run panicsExample.config) = .ok (shown, after)) :
      shown.outcome ≠ .panicked cause := by
    intro hpanic
    have hmisuse := ((hexact command hcall).1 cause).mp ⟨shown, after, hstep, hpanic⟩
    rw [hnone] at hmisuse
    cases hmisuse
  refine ⟨hbody, ?_, ?_, fun referent hmem => hrosters rfl referent hmem true⟩
  · simp only [List.forall_mem_cons, List.not_mem_nil, false_implies, implies_true, and_true]
    exact ⟨hpanics rfl rfl, hpanics rfl rfl, hpanics rfl rfl, hpanics rfl rfl⟩
  · simp only [List.forall_mem_cons, List.not_mem_nil, false_implies, implies_true, and_true]
    exact ⟨hgoes rfl rfl, hgoes rfl rfl⟩

end Program

end CountedHandles
