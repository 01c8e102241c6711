import CountedHandles.Proofs.Runs

/-!
# Exact lifetimes

The check of a referent that is destroyed misses no handle and raises no false alarm. A program that
goes on after a destruction therefore has no handle to what is gone: every reference holds a
referent that exists, every pointer that holds anything does too, and a referent that is created
where another one lay is held by no handle from before.
-/

namespace CountedHandles

namespace Store

variable {config : Config} {store : Store} {referent : Referent}

/-- No referent lies where one has been destroyed. -/
theorem Consistent.address_notMem_destroyed (h : store.Consistent config)
    (hmem : referent ∈ store.referents) :
    referent.address ∉ (store.destroyed config referent).sites := by
  have hreleased := h.course (@Course.releasedAll config store referent.links)
  obtain ⟨after, hafter, hname, haddress, -⟩ :=
    @exists_mem_releasedAll config store referent referent.links hmem
  intro hsite
  obtain ⟨other, hother, hat⟩ := List.mem_map.mp hsite
  obtain ⟨hotherMem, hdiffer⟩ := List.mem_filter.mp hother
  have hsame := List.inj_on_of_nodup_map hreleased.nodup_sites hotherMem hafter
    (hat.trans haddress.symm)
  rw [hsame, hname] at hdiffer
  simp at hdiffer

/-- Every handle of a well-formed store holds a referent or is a pointer that is vacant in one way.
-/
theorem WellFormed.exactly_one {handle : Handle} (h : store.WellFormed)
    (hmem : handle ∈ store.handles) :
    [handle.slot.isNull, handle.slot.isDeleted, store.sites.contains handle.address].count true =
      1 := by
  rcases h.settled handle hmem with ⟨-, hvacant⟩ | hlive
  · have hdead : store.sites.contains handle.address = false := by
      rw [List.contains_eq_mem, decide_eq_false_iff_not]
      intro hsite
      rw [Slot.target?_of_isSite (h.isSite _ hsite)] at hvacant
      cases hvacant
    rw [hdead]
    rcases Slot.target?_eq_none_iff.mp hvacant with hnull | hdeleted
    · have hnot : handle.slot.isDeleted = false := by
        rw [← Bool.not_eq_true]
        intro hdeleted
        rw [Slot.not_isNull_of_isDeleted hdeleted] at hnull
        cases hnull
      simp [hnull, hnot]
    · simp [hdeleted, Slot.not_isNull_of_isDeleted hdeleted]
  · have hsite := h.isSite _ hlive
    have hnotNull : handle.slot.isNull = false := by
      rw [← Bool.not_eq_true, Slot.isNull_iff]
      exact Slot.ne_null_of_isSite hsite
    have hnotDeleted : handle.slot.isDeleted = false := by
      rw [← Bool.not_eq_true, Slot.isDeleted_iff]
      exact Slot.ne_deleted_of_isSite hsite handle.slot.scheme
    simp [hnotNull, hnotDeleted, hlive]

/-- Every reference of a well-formed store holds a referent. -/
theorem WellFormed.address_mem_sites {handle : Handle} (h : store.WellFormed)
    (hmem : handle ∈ store.handles) (hform : handle.form = .reference) :
    handle.address ∈ store.sites := by
  rcases h.settled handle hmem with ⟨hpointer, -⟩ | hlive
  · rw [hform] at hpointer
    cases hpointer
  · exact hlive

end Store

namespace Session

variable {config : Config} {session after : Session} {referent : Referent} {handle : Handle}
  {shown : Step} {name : String} {value : Int64} {address? : Option Address}

/-- Some handle would outlive a referent: it holds it and is not a link that is gone by the time
when the referent is checked. -/
def Outlives (config : Config) (session : Session) (referent : Referent) : Prop :=
  ∃ handle ∈ session.store.handles, handle.address = referent.address ∧
    (config.kind.checksFirst = false → handle.serial ∉ referent.links)

instance : Decidable (session.Outlives config referent) :=
  inferInstanceAs (Decidable (∃ handle ∈ session.store.handles, handle.address = referent.address ∧
    (config.kind.checksFirst = false → handle.serial ∉ referent.links)))

/-- A referent passes its check exactly if no handle would outlive it. -/
theorem Holding.violationOf?_eq_none_iff (h : session.Sound config)
    (hmem : referent ∈ session.store.referents) :
    (session.store.checkpoint config referent).violationOf? referent.name = none ↔
      ¬ session.Outlives config referent := by
  rw [Store.violationOf?_checkpoint_eq_none_iff h.consistent hmem]
  constructor
  · rintro hnone ⟨handle, hhandle, haddress, hlink⟩
    obtain ⟨hlate, hmemLink⟩ := hnone handle.serial ⟨handle, hhandle, rfl, haddress⟩
    exact hlink hlate hmemLink
  · rintro hnone serial ⟨handle, hhandle, rfl, haddress⟩
    by_contra hlink
    exact hnone ⟨handle, hhandle, haddress, fun hlate hmemLink => hlink ⟨hlate, hmemLink⟩⟩

/-- The destruction of a referent as a step. -/
theorem Holding.step_destroy (h : session.Sound config)
    (hmem : referent ∈ session.store.referents) :
    session.step config (Command.run config (.onReferent (.destroy referent.name))) =
      match (session.clearEvents.store.checkpoint config referent).violationOf? referent.name with
      | none =>
        let after := { session.clearEvents with
          store := session.clearEvents.store.destroyed config referent }
        .ok (after.completed (.answered .nothing), after)
      | some violation => .error (.violation violation config.channel
          (session.clearEvents.store.checkpoint config referent).events) := by
  have hrun := ReferentCommand.run_destroy h.clearEvents
    (h.clearEvents.consistent.referent?_of_mem hmem)
  change session.step config ((ReferentCommand.destroy referent.name).run config) = _
  simp only [step, hrun]
  cases (session.clearEvents.store.checkpoint config referent).violationOf? referent.name <;> rfl

/-- The destruction of a referent ends the run exactly if a handle would outlive it. -/
theorem Holding.violates_iff_outlives (h : session.Sound config)
    (hmem : referent ∈ session.store.referents) :
    (∃ violation events, session.step config
      (Command.run config (.onReferent (.destroy referent.name))) =
        .error (.violation violation config.channel events)) ↔
      session.Outlives config referent := by
  have hchecked := h.clearEvents.violationOf?_eq_none_iff hmem
  rw [h.step_destroy hmem]
  constructor
  · rintro ⟨violation, events, hviolates⟩
    by_contra hnone
    rw [hchecked.mpr hnone] at hviolates
    cases hviolates
  · intro houtlives
    cases hviolation : (session.clearEvents.store.checkpoint config referent).violationOf?
        referent.name with
    | none => exact absurd houtlives (hchecked.mp hviolation)
    | some violation => exact ⟨_, _, rfl⟩

/-- A referent that no handle would outlive is destroyed, and none lies where it lay. -/
theorem Holding.exists_step_destroy (h : session.Sound config)
    (hmem : referent ∈ session.store.referents) (hnone : ¬ session.Outlives config referent) :
    ∃ shown after, session.step config
      (Command.run config (.onReferent (.destroy referent.name))) = .ok (shown, after) ∧
        shown.outcome = .answered .nothing ∧ referent.address ∉ after.store.sites := by
  have hpassed := (h.clearEvents.violationOf?_eq_none_iff hmem).mpr hnone
  rw [h.step_destroy hmem, hpassed]
  exact ⟨_, _, rfl, rfl, h.clearEvents.consistent.address_notMem_destroyed hmem⟩

/-- A referent that has been created lies where no handle points. -/
theorem Holding.free_of_step_create (h : session.Sound config)
    (hstep : session.step config (Command.run config (.onReferent (.create name value address?))) =
      .ok (shown, after)) (hanswer : shown.outcome = .answered .nothing) :
    ∃ address,
      after.store.referents = session.store.referents ++ [⟨name, address, value, [], 0, .empty⟩] ∧
      after.store.handles = session.store.handles ∧
      ∀ handle ∈ session.store.handles, handle.address ≠ address := by
  have hends := @step_of_ends config _ _ _ _
    (@ReferentCommand.ends_create config session.clearEvents name value address?
      (fun stop _ => ∃ refusal, stop = .refused refusal) fun refusal => ⟨refusal, rfl⟩)
  change session.step config ((ReferentCommand.create name value address?).run config) = _ at hstep
  rw [hstep] at hends
  rcases hends with ⟨answer, -, address, hsite, hfree, -, rfl⟩ | ⟨refusal, rfl, -⟩ |
    ⟨cause, -, refusal, hcut⟩
  · refine ⟨address, rfl, rfl, fun handle hmem haddress => ?_⟩
    exact h.consistent.not_holds_of_free hsite hfree ⟨handle, hmem, rfl, haddress⟩
  · cases hanswer
  · cases hcut

end Session

namespace Program

/-- Wherever a program gets that leaves calls to handles, the destruction of a referent ends its run
exactly if a handle would outlive the referent, and no handle has outlived any: references hold
referents that exist, pointers are null, deleted or hold referents that exist, and no handle holds a
referent that is only just created. -/
theorem destroy_violates_iff_outlives {program : Program} {steps : List Step} {session : Session}
    (hcalls : program.LeavesCalls) (hbody : program.body = (steps, .ok session)) :
    (∀ referent ∈ session.store.referents,
      ((∃ violation events, session.step program.config
          (Command.run program.config (.onReferent (.destroy referent.name))) =
            .error (.violation violation program.config.channel events)) ↔
        session.Outlives program.config referent) ∧
      (¬ session.Outlives program.config referent → ∃ shown after, session.step program.config
          (Command.run program.config (.onReferent (.destroy referent.name))) = .ok (shown, after) ∧
        shown.outcome = .answered .nothing ∧ referent.address ∉ after.store.sites)) ∧
    (∀ handle ∈ session.store.handles, handle.form = .reference →
      ∃ referent ∈ session.store.referents, handle.address = referent.address) ∧
    (∀ handle ∈ session.store.handles, handle.form = .pointer →
      [handle.slot.isNull, handle.slot.isDeleted,
        session.store.sites.contains handle.address].count true = 1) ∧
    (∀ name value address? shown after, session.step program.config
        (Command.run program.config (.onReferent (.create name value address?))) =
          .ok (shown, after) → shown.outcome = .answered .nothing →
      ∃ referent, after.store.referents = session.store.referents ++ [referent] ∧
        referent.name = name ∧ after.store.handles = session.store.handles ∧
        ∀ handle ∈ session.store.handles, handle.address ≠ referent.address) := by
  have hsound := (reached_of_body hcalls hbody).sound
  refine ⟨fun referent hmem => ?_, fun handle hmem hform => ?_, fun handle hmem _ => ?_, ?_⟩
  · exact ⟨hsound.violates_iff_outlives hmem, hsound.exists_step_destroy hmem⟩
  · obtain ⟨referent, hreferent, haddress⟩ :=
      List.mem_map.mp (hsound.consistent.address_mem_sites hmem hform)
    exact ⟨referent, hreferent, haddress.symm⟩
  · exact hsound.consistent.exactly_one hmem
  · intro name value address? shown after hstep hanswer
    obtain ⟨address, hreferents, hhandles, hfree⟩ := hsound.free_of_step_create hstep hanswer
    exact ⟨_, hreferents, rfl, hhandles, hfree⟩

/-- A program that destroys a referent with a link to itself and creates another one where it lay.
-/
def lifetimesExample : Program where
  config := ⟨⟨false, false⟩, .ordinary, .off⟩
  commands :=
    [.onReferent (.create "a" 1 none), .onHandle (.hold .pointer "p" .raw "a"),
      .onReferent (.attach "a" "p"), .onReferent (.destroy "a"),
      .onReferent (.create "b" 2 (some 0x100000000)), .onHandle (.hold .reference "r" .packed "b")]

/-- After that program the new referent cannot be destroyed, because of the reference to it. -/
theorem destroy_violates_lifetimesExample :
    lifetimesExample.body = (lifetimesExample.body.1, .ok lifetimesExample.final) ∧
      lifetimesExample.final.created = ["a", "b"] ∧
      lifetimesExample.final.store.sites = [0x100000000] ∧
      ∀ referent ∈ lifetimesExample.final.store.referents,
        lifetimesExample.final.Outlives lifetimesExample.config referent ∧
        ∃ violation events, lifetimesExample.final.step lifetimesExample.config
          (Command.run lifetimesExample.config (.onReferent (.destroy referent.name))) =
            .error (.violation violation lifetimesExample.config.channel events) := by
  have hcalls : lifetimesExample.LeavesCalls := by
    simp [LeavesCalls, lifetimesExample, Command.isCall]
  have hbody : lifetimesExample.body = (lifetimesExample.body.1, .ok lifetimesExample.final) := rfl
  have houtlives : ∀ referent ∈ lifetimesExample.final.store.referents,
      lifetimesExample.final.Outlives lifetimesExample.config referent := by decide +kernel
  have hexact := destroy_violates_iff_outlives hcalls hbody
  exact ⟨hbody, rfl, rfl, fun referent hmem => ⟨houtlives referent hmem,
    (hexact.1 referent hmem).1.mpr (houtlives referent hmem)⟩⟩

end Program

end CountedHandles
