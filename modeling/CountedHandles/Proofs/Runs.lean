import CountedHandles.Program
import CountedHandles.Proofs.Commands

/-!
# Runs

A program that calls no referent directly leads from the empty session through sound sessions only.
What every command keeps is therefore true wherever such a program gets, and only the destruction of
a referent can end its run.
-/

namespace CountedHandles

/-- Whether a program leaves it to handles to call referents. -/
def Program.LeavesCalls (program : Program) : Prop :=
  ∀ command ∈ program.commands, command.isCall = false

namespace Session

variable {config : Config} {session after : Session} {command : Command} {shown : Step}
  {steps later : List Step} {abortion : Abortion} {loose : List Serial}

/-- Forgetting events leaves every handle where it is. -/
theorem Holding.clearEvents (h : session.Holding config loose) :
    session.clearEvents.Holding config loose where
  consistent := ⟨h.consistent.congr rfl rfl rfl rfl, fun referent hmem =>
    (h.consistent.reflects referent hmem).congr rfl fun _ => Iff.rfl⟩
  kept_perm := h.kept_perm
  nodup_names := h.nodup_names
  created_mem := h.created_mem

@[simp] theorem keptBy_clearEvents (keeper : Keeper) :
    session.clearEvents.keptBy keeper = session.keptBy keeper := by
  cases keeper with
  | name name => rfl
  | set scheme => cases scheme <;> rfl
  | referent name => rfl

/-- A step shows what its turn comes to, or aborts the run if that is a violation or a collapse. -/
theorem step_of_ends {turn : Turn Answer} {done : Answer → Session → Prop}
    {cut : Stop → Session → Prop} (h : turn.Ends session.clearEvents done cut) :
    match session.step config turn with
    | .ok (shown, after) =>
      (∃ answer, shown = after.completed (.answered answer) ∧ done answer after) ∨
      (∃ refusal, shown = after.completed (.refused refusal) ∧ cut (.refused refusal) after) ∨
      (∃ cause, shown = after.completed (.panicked cause) ∧ cut (.fault (.panic cause)) after)
    | .error abortion =>
      (∃ violation after, abortion = .violation violation config.channel after.store.events ∧
        cut (.fault (.violation violation)) after) ∨
      (∃ after, abortion = .collapse ∧ cut (.fault .collapse) after) := by
  unfold Turn.Ends at h
  unfold step
  cases hturn : turn session.clearEvents with
  | ok answer after =>
    rw [hturn] at h
    exact Or.inl ⟨answer, rfl, h⟩
  | error stop after =>
    rw [hturn] at h
    cases stop with
    | refused refusal => exact Or.inr (Or.inl ⟨refusal, rfl, h⟩)
    | fault fault =>
      cases fault with
      | panic cause => exact Or.inr (Or.inr ⟨cause, rfl, h⟩)
      | violation violation => exact Or.inl ⟨violation, after, rfl, h⟩
      | collapse => exact Or.inr ⟨after, rfl, h⟩

/-- A turn that cannot be cut short is answered as a step. -/
theorem exists_step_of_ends {turn : Turn Answer} {done : Answer → Session → Prop}
    (h : turn.Ends session.clearEvents done fun _ _ => False) :
    ∃ answer after, session.step config turn = .ok (after.completed (.answered answer), after) ∧
      done answer after := by
  unfold Turn.Ends at h
  unfold step
  cases hturn : turn session.clearEvents with
  | ok answer after =>
    rw [hturn] at h
    exact ⟨answer, after, rfl, h⟩
  | error stop after =>
    rw [hturn] at h
    exact h.elim

/-- A step shows the events in the store that it leads to. -/
theorem events_of_step {turn : Turn Answer}
    (hstep : session.step config turn = .ok (shown, after)) :
    shown.events = after.store.events := by
  have hends := @step_of_ends config session turn (fun _ _ => True) (fun _ _ => True)
    (Turn.ends_of_forall (fun _ _ => trivial) fun _ _ => trivial)
  rw [hstep] at hends
  rcases hends with ⟨_, rfl, -⟩ | ⟨_, rfl, -⟩ | ⟨_, rfl, -⟩
  · rfl
  · rfl
  · rfl

/-- A step that is completed is followed by the rest of the run. -/
theorem steps_cons_of_ok {turn : Turn Answer} {rest : List (Turn Answer)}
    (hstep : session.step config turn = .ok (shown, after)) :
    session.steps config (turn :: rest) =
      (shown :: (after.steps config rest).1, (after.steps config rest).2) := by
  simp only [steps, hstep]

/-- A step that cannot be completed is the end of the run. -/
theorem steps_cons_of_error {turn : Turn Answer} {rest : List (Turn Answer)}
    (hstep : session.step config turn = .error abortion) :
    session.steps config (turn :: rest) = ([], .error abortion) := by
  simp only [steps, hstep]

/-- A run that is completed starts with a step that is completed. -/
theorem step_of_steps_cons {turn : Turn Answer} {rest : List (Turn Answer)}
    (hrun : session.steps config (turn :: rest) = (steps, .ok after)) :
    ∃ shown between later, session.step config turn = .ok (shown, between) ∧
      between.steps config rest = (later, .ok after) ∧ steps = shown :: later := by
  cases hstep : session.step config turn with
  | error abortion =>
    rw [steps_cons_of_error hstep] at hrun
    cases hrun
  | ok result =>
    obtain ⟨shown, between⟩ := result
    rw [steps_cons_of_ok hstep] at hrun
    obtain ⟨hlater, hresult⟩ := Prod.mk.inj hrun
    exact ⟨shown, between, _, rfl, Prod.ext rfl hresult, hlater.symm⟩

/-- Turns are followed by others only if all of them are completed. -/
theorem steps_append {turns rest : List (Turn Answer)} :
    session.steps config (turns ++ rest) =
      match session.steps config turns with
      | (shown, .ok after) =>
        (shown ++ (after.steps config rest).1, (after.steps config rest).2)
      | (shown, .error abortion) => (shown, .error abortion) := by
  induction turns generalizing session with
  | nil => rfl
  | cons turn turns ih =>
    rw [List.cons_append]
    cases hstep : session.step config turn with
    | error abortion => rw [steps_cons_of_error hstep, steps_cons_of_error hstep]
    | ok result =>
      obtain ⟨shown, between⟩ := result
      rw [steps_cons_of_ok hstep, steps_cons_of_ok hstep, ih]
      rcases between.steps config turns with ⟨later, abortion | after⟩
      · rfl
      · rfl

/-- A run that is aborted completes some turns and fails in the next. -/
theorem exists_of_steps_eq_error {turns : List (Turn Answer)}
    (hrun : session.steps config turns = (steps, .error abortion)) :
    ∃ past turn rest between, turns = past ++ turn :: rest ∧
      session.steps config past = (steps, .ok between) ∧
        between.step config turn = .error abortion := by
  induction turns generalizing session steps with
  | nil => cases hrun
  | cons turn turns ih =>
    cases hstep : session.step config turn with
    | error cause =>
      rw [steps_cons_of_error hstep] at hrun
      cases hrun
      exact ⟨[], turn, turns, session, rfl, rfl, hstep⟩
    | ok result =>
      obtain ⟨shown, between⟩ := result
      rw [steps_cons_of_ok hstep] at hrun
      obtain ⟨rfl, hresult⟩ := Prod.mk.inj hrun
      obtain ⟨past, failing, rest, last, rfl, hpast, hfails⟩ := ih (Prod.ext rfl hresult)
      exact ⟨turn :: past, failing, rest, last, rfl,
        by rw [steps_cons_of_ok hstep, hpast], hfails⟩

/-- A step of a sound session leads to a sound one. -/
theorem Holding.leads_of_step (h : session.Sound config) (hcall : command.isCall = false)
    (hstep : session.step config (command.run config) = .ok (shown, after)) :
    session.clearEvents.Leads config command.touches [] after := by
  have hends := @step_of_ends config _ _ _ _ (command.ends_run h.clearEvents hcall)
  have hsame : session.clearEvents.Leads config command.touches [] session.clearEvents :=
    Sound.leads h.clearEvents
  rw [hstep] at hends
  rcases hends with ⟨answer, -, hleads⟩ | ⟨refusal, -, hcut⟩ | ⟨cause, -, hcut⟩
  · exact hleads
  · rcases hcut with rfl | ⟨referent, -, -, hviolates⟩
    · exact hsame
    · exact hviolates.elim
  · rcases hcut with ⟨rfl, -⟩ | ⟨referent, -, -, hviolates⟩
    · exact hsame
    · exact hviolates.elim

/-- Only the destruction of a referent that fails its check aborts the run of a sound session. -/
theorem Holding.abortion_of_step (h : session.Sound config) (hcall : command.isCall = false)
    (hstep : session.step config (command.run config) = .error abortion) :
    ∃ referent ∈ session.store.referents, command = .onReferent (.destroy referent.name) ∧
      ∃ violation, (session.clearEvents.store.checkpoint config referent).violationOf?
        referent.name = some violation ∧ abortion = .violation violation config.channel
          (session.clearEvents.store.checkpoint config referent).events := by
  have hends := @step_of_ends config _ _ _ _ (command.ends_run h.clearEvents hcall)
  rw [hstep] at hends
  rcases hends with ⟨violation, after, habortion, hcut⟩ | ⟨after, -, hcut⟩
  · rcases hcut with hunharmed | ⟨referent, hmem, hcommand, hviolates⟩
    · exact hunharmed.elim
    · obtain ⟨hchecked, rfl⟩ := hviolates
      exact ⟨referent, hmem, hcommand, violation, hchecked, habortion⟩
  · rcases hcut with hunharmed | ⟨referent, -, -, hviolates⟩
    · exact hunharmed.elim
    · exact hviolates.elim

/-- A command that calls no referent directly ends a run only by destroying a referent. -/
theorem Holding.exists_step_of_ne_destroy (h : session.Sound config)
    (hcall : command.isCall = false) (hne : ∀ name, command ≠ .onReferent (.destroy name)) :
    ∃ shown after, session.step config (command.run config) = .ok (shown, after) := by
  cases hstep : session.step config (command.run config) with
  | ok result => exact ⟨result.1, result.2, rfl⟩
  | error abortion =>
    obtain ⟨referent, -, hcommand, -⟩ := h.abortion_of_step hcall hstep
    exact absurd hcommand (hne _)

/-- The steps that a program has shown when it gets to a session. -/
inductive Reached (config : Config) : List Step → Session → Prop
  /-- Every program starts with the empty session. -/
  | start : Reached config [] {}
  /-- Every command that calls no referent directly leads on. -/
  | next {steps : List Step} {session after : Session} {command : Command} {shown : Step}
      (reached : Reached config steps session) (leaves : command.isCall = false)
      (step_eq : session.step config (command.run config) = .ok (shown, after)) :
      Reached config (steps ++ [shown]) after

/-- The empty session is sound. -/
theorem sound_empty : ({} : Session).Sound config where
  consistent :=
    { nodup_serials := List.nodup_nil
      serial_lt := fun _ hmem => absurd hmem List.not_mem_nil
      nodup_names := List.nodup_nil
      nodup_sites := List.nodup_nil
      isSite := fun _ hmem => absurd hmem List.not_mem_nil
      settled := fun _ hmem => absurd hmem List.not_mem_nil
      reflects := fun _ hmem => absurd hmem List.not_mem_nil }
  kept_perm := .refl _
  nodup_names := List.nodup_nil
  created_mem := fun _ hmem => absurd hmem List.not_mem_nil

namespace Reached

/-- Every session that is reached is sound. -/
theorem sound (h : Reached config steps session) : session.Sound config := by
  induction h with
  | start => exact sound_empty
  | next _ leaves step_eq ih => exact (ih.leads_of_step leaves step_eq).holding

/-- Commands lead on from a session that is reached. -/
theorem onward {commands : List Command} (h : Reached config steps session)
    (hcalls : ∀ command ∈ commands, command.isCall = false)
    (hrun : session.steps config (commands.map (Command.run config)) = (later, .ok after)) :
    Reached config (steps ++ later) after := by
  induction commands generalizing session steps later with
  | nil =>
    cases hrun
    rwa [List.append_nil]
  | cons command rest ih =>
    obtain ⟨shown, between, later, hstep, hrest, rfl⟩ := step_of_steps_cons hrun
    have hnext := h.next (hcalls command List.mem_cons_self) hstep
    have hreached := ih hnext (fun other hother => hcalls other (List.mem_cons_of_mem _ hother))
      hrest
    rwa [List.append_assoc] at hreached

end Reached

end Session

/-- Where a program gets if nothing ends its run. -/
def Program.final (program : Program) : Session :=
  match program.body.2 with
  | .ok session => session
  | .error _ => {}

/-- A program that leaves calls to handles gets where its body ends. -/
theorem Program.reached_of_body {program : Program} {steps : List Step} {session : Session}
    (hcalls : program.LeavesCalls) (hbody : program.body = (steps, .ok session)) :
    Session.Reached program.config steps session := by
  have hreached := Session.Reached.start.onward hcalls hbody
  rwa [List.nil_append] at hreached

end CountedHandles
