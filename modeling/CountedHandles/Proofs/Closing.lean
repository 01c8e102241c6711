import CountedHandles.Proofs.Runs

/-!
# Whole runs

A program that leaves calls to handles goes from one sound session to the next until it has closed,
or until the destruction of a referent ends its run. Dropping the handles that are still kept in the
end is a course of acts like any other, and none of these drops panics.
-/

namespace CountedHandles

/-- Drops one after the other meet no panic on a consistent store. -/
theorem Handle.run_releaseEach {config : Config} {store : Store} (h : store.Consistent config)
    (serials : List Serial) :
    releaseEach config serials store = .ok [] (store.releasedAll config serials) := by
  induction serials generalizing store with
  | nil => rfl
  | cons serial rest ih =>
    simp only [releaseEach, run_release h serial]
    exact ih (h.released serial)

namespace Session

variable {config : Config} {session after : Session} {turn : Turn Answer}
  {turns : List (Turn Answer)} {shown : Step} {steps later : List Step} {serials : List Serial}
  {abortion : Abortion}

/-! ## Dropped handles -/

/-- Handles that exist are found under their serial numbers. -/
theorem map_serial_filterMap_handle? (hexist : ∀ serial ∈ serials, serial ∈ session.store.serials) :
    (serials.filterMap session.store.handle?).map Handle.serial = serials := by
  induction serials with
  | nil => rfl
  | cons serial rest ih =>
    obtain ⟨handle, hfound⟩ : ∃ handle, session.store.handle? serial = some handle := by
      rw [← Option.ne_none_iff_exists']
      exact fun hnone => Store.handle?_eq_none_iff.mp hnone (hexist serial List.mem_cons_self)
    rw [List.filterMap_cons_some hfound, List.map_cons, Store.serial_of_handle? hfound,
      ih fun other hother => hexist other (List.mem_cons_of_mem _ hother)]

/-- A closing program drops the handles that are kept under names and in sets. -/
theorem Holding.keptHandles_perm (h : session.Sound config) :
    session.keptHandles.Perm session.placed := by
  have hmembers (scheme : Scheme) :
      (session.membersInOrder scheme).Perm (session.members scheme) := by
    have hexist : ∀ serial ∈ session.members scheme, serial ∈ session.store.serials := by
      intro serial hmem
      refine h.kept_perm.mem_iff.mp (List.mem_append_left _ ?_ : serial ∈ session.kept)
      cases scheme with
      | raw => exact List.mem_append_left _ (List.mem_append_right _ hmem)
      | packed => exact List.mem_append_right _ hmem
    have hsorted := (Sorting.sort_perm (fun a b : Handle => decide (a.address ≤ b.address))
      ((session.members scheme).filterMap session.store.handle?)).map Handle.serial
    rwa [map_serial_filterMap_handle? hexist] at hsorted
  exact (((Sorting.sort_perm _ _).map Prod.snd).append (hmembers .raw)).append (hmembers .packed)

/-- A session whose handles under names and in sets have been dropped. -/
def dropped (config : Config) (session : Session) : Session :=
  { session with
    store := session.store.releasedAll config session.keptHandles
    names := []
    rawSet := []
    packedSet := [] }

/-- A session stays sound when its handles are dropped. -/
theorem Holding.dropped (h : session.Sound config) : (session.dropped config).Sound config := by
  have hkept : session.kept.Perm session.store.serials := h.kept_perm
  have hall : session.kept.Nodup := hkept.nodup_iff.mpr h.consistent.nodup_serials
  have hnodup : session.keptHandles.Nodup :=
    h.keptHandles_perm.nodup_iff.mpr (List.nodup_append.mp hall).1
  have hexist : ∀ serial ∈ session.keptHandles, serial ∈ session.store.serials :=
    fun serial hmem => hkept.mem_iff.mp
      (List.mem_append_left _ (h.keptHandles_perm.mem_iff.mp hmem))
  have hloose : ({ session with names := [], rawSet := [], packedSet := [] } : Session).Holding
      config (session.keptHandles ++ []) :=
    { consistent := h.consistent
      kept_perm := by
        rw [List.append_nil]
        exact (h.keptHandles_perm.append_right _).trans h.kept_perm
      nodup_names := List.nodup_nil
      created_mem := h.created_mem }
  exact hloose.passage (.releasedAll h.consistent hnodup hexist)

/-- All handles that are kept in the end are dropped in one step and none of them panics. -/
theorem Holding.step_dropHandles (h : session.Sound config) :
    session.step config (dropHandles config) =
      .ok ((session.clearEvents.dropped config).completed (.answered (.panics [])),
        session.clearEvents.dropped config) := by
  have hrun := Handle.run_releaseEach h.clearEvents.consistent session.clearEvents.keptHandles
  have hturn : dropHandles config session.clearEvents =
      .ok (.panics []) (session.clearEvents.dropped config) := by
    simp only [dropHandles, Turn.run_bind, Turn.run_get, Turn.run_modify, Turn.perform, hrun]
    rfl
  rw [step, hturn]

/-! ## Trails -/

/-- The steps that a run has shown when it gets to a session, whichever turns it took. -/
inductive Trail (config : Config) : List Step → Session → Prop
  /-- Every run starts with the empty session. -/
  | start : Trail config [] {}
  /-- A course of acts leads on to another sound session. -/
  | next {steps : List Step} {session after : Session} {shown : Step}
      (trail : Trail config steps session) (sound : after.Sound config)
      (course : Store.Course config session.clearEvents.store after.store)
      (events_eq : shown.events = after.store.events) : Trail config (steps ++ [shown]) after

/-- A turn of a run that leaves calls to handles: a command, or the end of all kept handles. -/
inductive IsTurn (config : Config) : Turn Answer → Prop
  /-- A command that calls no referent directly. -/
  | command (command : Command) (leaves : command.isCall = false) :
      IsTurn config (command.run config)
  /-- All handles that are kept under names and in sets are dropped. -/
  | dropHandles : IsTurn config (dropHandles config)

namespace Trail

/-- Every session on a trail is sound. -/
theorem sound (h : Trail config steps session) : session.Sound config := by
  cases h with
  | start => exact sound_empty
  | next _ sound _ _ => exact sound

/-- What has been reached by commands lies on a trail. -/
theorem of_reached (h : Reached config steps session) : Trail config steps session := by
  induction h with
  | start => exact .start
  | next reached leaves step_eq ih =>
    have hleads := reached.sound.leads_of_step leaves step_eq
    exact ih.next hleads.holding hleads.course (events_of_step step_eq)

/-- A turn that is completed leads on from a trail. -/
theorem step (h : Trail config steps session) (hturn : IsTurn config turn)
    (hstep : session.step config turn = .ok (shown, after)) :
    Trail config (steps ++ [shown]) after := by
  cases hturn with
  | command command leaves =>
    have hleads := h.sound.leads_of_step leaves hstep
    exact h.next hleads.holding hleads.course (events_of_step hstep)
  | dropHandles =>
    rw [h.sound.step_dropHandles] at hstep
    cases hstep
    exact h.next h.sound.clearEvents.dropped .releasedAll rfl

/-- Only the destruction of a referent that fails its check ends a run on a trail. -/
theorem abortion_of_step (h : Trail config steps session) (hturn : IsTurn config turn)
    (hstep : session.step config turn = .error abortion) :
    ∃ referent ∈ session.store.referents,
      turn = Command.run config (.onReferent (.destroy referent.name)) ∧
      ∃ violation, (session.clearEvents.store.checkpoint config referent).violationOf?
        referent.name = some violation ∧ abortion = .violation violation config.channel
          (session.clearEvents.store.checkpoint config referent).events := by
  cases hturn with
  | command command leaves =>
    obtain ⟨referent, hmem, rfl, habortion⟩ := h.sound.abortion_of_step leaves hstep
    exact ⟨referent, hmem, rfl, habortion⟩
  | dropHandles =>
    rw [h.sound.step_dropHandles] at hstep
    cases hstep

/-- Turns that are all completed lead on from a trail. -/
theorem onward (h : Trail config steps session) (hturns : ∀ turn ∈ turns, IsTurn config turn)
    (hrun : session.steps config turns = (later, .ok after)) :
    Trail config (steps ++ later) after := by
  induction turns generalizing session steps later with
  | nil =>
    cases hrun
    rwa [List.append_nil]
  | cons turn rest ih =>
    obtain ⟨shown, between, later, hstep, hrest, rfl⟩ := step_of_steps_cons hrun
    have htrail := ih (h.step (hturns turn List.mem_cons_self) hstep)
      (fun other hother => hturns other (List.mem_cons_of_mem _ hother)) hrest
    rwa [List.append_assoc] at htrail

end Trail

end Session

namespace Program

open Session

variable {program : Program} {steps : List Step} {session : Session} {abortion : Abortion}

/-- The turns that a program takes, those of its closing included if it gets there. -/
def turns (program : Program) : List (Turn Answer) :=
  program.commands.map (Command.run program.config) ++
    match program.body.2 with
    | .ok session => session.closing program.config
    | .error _ => []

/-- A program that leaves calls to handles takes no other turns. -/
theorem isTurn_of_mem_turns (hcalls : program.LeavesCalls) :
    ∀ turn ∈ program.turns, IsTurn program.config turn := by
  intro turn hmem
  rcases List.mem_append.mp hmem with hbody | hclosing
  · obtain ⟨command, hcommand, rfl⟩ := List.mem_map.mp hbody
    exact .command command (hcalls command hcommand)
  · split at hclosing
    · rename_i session _
      rcases List.mem_cons.mp hclosing with rfl | hrest
      · exact .command (.look .dump) rfl
      rcases List.mem_cons.mp hrest with rfl | hdestroy
      · exact .dropHandles
      · obtain ⟨referent, -, rfl⟩ := List.mem_map.mp hdestroy
        exact .command (.onReferent (.destroy referent.name)) rfl
    · cases hclosing

/-- A program takes its turns one after the other, up to the first that cannot be completed. -/
theorem steps_turns (program : Program) :
    (Session.steps program.config {} program.turns).1 = program.run.steps ∧
      ∀ abortion, program.run.abortion? = some abortion ↔
        (Session.steps program.config {} program.turns).2 = .error abortion := by
  have hbody : Session.steps program.config {} (program.commands.map (Command.run program.config)) =
    program.body := rfl
  unfold turns run
  rw [steps_append, hbody]
  rcases hends : program.body with ⟨steps, abortion | session⟩
  · simp
  · rcases hclosing : session.steps program.config (session.closing program.config) with
      ⟨closing, abortion | after⟩
    · simp [hclosing]
    · simp [hclosing]

/-- A run that is not aborted leads somewhere. -/
theorem exists_trail (hcalls : program.LeavesCalls) (hnone : program.run.abortion? = none) :
    ∃ session, Trail program.config program.run.steps session := by
  obtain ⟨hsteps, habortion⟩ := program.steps_turns
  rcases hrun : Session.steps program.config {} program.turns with ⟨steps, abortion | session⟩
  · have hsome := (habortion abortion).mpr (by rw [hrun])
    rw [hnone] at hsome
    cases hsome
  · rw [hrun] at hsteps
    have htrail := Trail.start.onward (isTurn_of_mem_turns hcalls) hrun
    rw [List.nil_append] at htrail
    exact ⟨session, hsteps ▸ htrail⟩

/-- A run that is aborted leads to a session in which a referent that is destroyed fails its check.
-/
theorem exists_trail_of_abortion (hcalls : program.LeavesCalls)
    (hsome : program.run.abortion? = some abortion) :
    ∃ past rest session, ∃ referent ∈ session.store.referents,
      program.turns =
        past ++ Command.run program.config (.onReferent (.destroy referent.name)) :: rest ∧
      Session.steps program.config {} past = (program.run.steps, .ok session) ∧
      Trail program.config program.run.steps session ∧
      ∃ violation, (session.clearEvents.store.checkpoint program.config referent).violationOf?
        referent.name = some violation ∧ abortion = .violation violation program.config.channel
          (session.clearEvents.store.checkpoint program.config referent).events := by
  obtain ⟨hsteps, habortion⟩ := program.steps_turns
  have hrun : Session.steps program.config {} program.turns =
      (program.run.steps, .error abortion) := Prod.ext hsteps ((habortion abortion).mp hsome)
  have hturns := isTurn_of_mem_turns hcalls
  obtain ⟨past, turn, rest, session, hsplit, hpast, hfails⟩ := exists_of_steps_eq_error hrun
  rw [hsplit] at hturns
  have htrail := Trail.start.onward
    (fun other hother => hturns other (List.mem_append_left _ hother)) hpast
  rw [List.nil_append] at htrail
  obtain ⟨referent, hmem, rfl, hviolates⟩ := htrail.abortion_of_step
    (hturns turn (List.mem_append_right _ List.mem_cons_self)) hfails
  exact ⟨past, rest, session, referent, hmem, hsplit, hpast, htrail, hviolates⟩

end Program

end CountedHandles
