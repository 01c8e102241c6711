import CountedHandles.Proofs.Runs

/-!
# The level of the log

How much a run logs has no influence on what it does. Only two things depend on the level of the
log: which records are shown, and the channel on which a lifetime violation is reported.
-/

namespace CountedHandles

/-- A configuration with another level of the log. -/
def Config.withLog (config : Config) (level : LogLevel) : Config :=
  { config with log := level }

/-- A violation that is reported on another channel. -/
def Abortion.via (channel : Channel) : Abortion → Abortion
  | .violation report _ events => .violation report channel events
  | .collapse => .collapse

/-- No record is of the level at which a violation is reported. -/
theorem LogRecord.level_ne_error (record : LogRecord) : record.level ≠ .error := by
  cases record <;> simp [level]

/-- Drops do not depend on the level of the log. -/
theorem Handle.releaseAll_withLog (config : Config) (level : LogLevel) :
    releaseAll (config.withLog level) = releaseAll config := by
  funext serials
  induction serials with
  | nil => rfl
  | cons serial rest ih => exact congrArg (Operation.ensuring (release config serial)) ih

/-- Drops whose panics are collected do not depend on the level of the log. -/
theorem Handle.releaseEach_withLog (config : Config) (level : LogLevel) :
    releaseEach (config.withLog level) = releaseEach config := by
  funext serials
  induction serials with
  | nil => rfl
  | cons serial rest ih =>
    funext store
    have hrelease : release (config.withLog level) = release config := rfl
    simp only [releaseEach, ih, hrelease]

/-- Destructions do not depend on the level of the log. -/
theorem Referent.destroy_withLog (config : Config) (level : LogLevel) :
    destroy (config.withLog level) = destroy config := by
  funext referent
  have hkind : (config.withLog level).kind = config.kind := rfl
  simp only [destroy, Handle.releaseAll_withLog, hkind]

/-- Commands do not depend on the level of the log. -/
theorem Command.run_withLog (config : Config) (level : LogLevel) (command : Command) :
    command.run (config.withLog level) = command.run config := by
  cases command with
  | onReferent command =>
    cases command with
    | destroy name =>
      change ReferentCommand.runDestroy _ name = ReferentCommand.runDestroy _ name
      simp only [ReferentCommand.runDestroy, Referent.destroy_withLog]
    | _ => rfl
  | onHandle command => cases command <;> rfl
  | change command => cases command <;> rfl
  | look command => cases command <;> rfl
  | onSet command => cases command <;> rfl
  | call command => cases command <;> rfl
  | unreadable preconditions => rfl

namespace Session

variable {config : Config} {level : LogLevel}

/-- A turn that does not depend on the level of the log reports a violation on the channel of the
level and otherwise comes to the same. -/
theorem step_withLog (session : Session) (turn : Turn Answer) :
    session.step (config.withLog level) turn =
      (session.step config turn).mapError (Abortion.via (config.withLog level).channel) := by
  unfold step
  rcases turn session.clearEvents with ⟨answer, after⟩ | ⟨stop, after⟩
  · rfl
  · rcases stop with refusal | _ | violation | _ <;> rfl

/-- Turns that do not depend on the level of the log report a violation on the channel of the level
and otherwise come to the same. -/
theorem steps_withLog (session : Session) (turns : List (Turn Answer)) :
    session.steps (config.withLog level) turns =
      ((session.steps config turns).1,
        (session.steps config turns).2.mapError (Abortion.via (config.withLog level).channel)) := by
  induction turns generalizing session with
  | nil => rfl
  | cons turn rest ih =>
    have hstep' := @step_withLog config level session turn
    cases hstep : session.step config turn with
    | error abortion =>
      rw [hstep] at hstep'
      rw [steps_cons_of_error hstep, steps_cons_of_error hstep']
      rfl
    | ok result =>
      obtain ⟨shown, after⟩ := result
      rw [hstep] at hstep'
      rw [steps_cons_of_ok hstep, steps_cons_of_ok hstep', ih]

/-- The turns that close a program do not depend on the level of the log. -/
theorem closing_withLog (session : Session) :
    session.closing (config.withLog level) = session.closing config := by
  have hdrop : dropHandles (config.withLog level) = dropHandles config := by
    simp only [dropHandles, Handle.releaseEach_withLog]
  have hdestroy (name : String) : (ReferentCommand.destroy name).run (config.withLog level) =
      (ReferentCommand.destroy name).run config :=
    Command.run_withLog config level (.onReferent (.destroy name))
  have hdump : LookCommand.dump.run (config.withLog level) = LookCommand.dump.run config := rfl
  simp only [closing, hdrop, hdestroy, hdump]

end Session

namespace Program

variable {program : Program} {level : LogLevel}

/-- A program that is run with another level of the log. -/
def withLog (program : Program) (level : LogLevel) : Program :=
  { program with config := program.config.withLog level }

/-- The level of the log decides on the channel of a report and on nothing else that is done. -/
theorem run_withLog (program : Program) (level : LogLevel) :
    (program.withLog level).run =
      { program.run with
        abortion? := program.run.abortion?.map
          (Abortion.via (program.config.withLog level).channel) } := by
  have hcommands : Command.run (program.config.withLog level) = Command.run program.config :=
    funext (Command.run_withLog program.config level)
  have hbody : (program.withLog level).body = (program.body.1,
      program.body.2.mapError (Abortion.via (program.config.withLog level).channel)) := by
    simp only [body, withLog, hcommands, Session.steps_withLog]
  unfold run
  rw [hbody]
  rcases program.body with ⟨steps, abortion | session⟩
  · rfl
  · simp only [Except.mapError, withLog, Session.closing_withLog, Session.steps_withLog]
    rcases session.steps program.config (session.closing program.config) with
      ⟨closing, abortion | after⟩
    · rfl
    · rfl

end Program

end CountedHandles
