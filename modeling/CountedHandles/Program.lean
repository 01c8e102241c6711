import CountedHandles.Command.Run
import CountedHandles.Transcript

/-!
# Programs

A program runs its commands and then closes: it shows what exists, drops every handle that is
still kept, and destroys every referent that still lives, the last created first. Each command and
each part of the closing is a step. A lifetime violation ends the program at once.
-/

namespace CountedHandles

namespace Session

/-- Forgets the events of the last step. -/
def clearEvents (session : Session) : Session :=
  { session with store := session.store.clearEvents }

/-- Shows a step that has been completed. -/
def completed (session : Session) (outcome : Outcome) : Step :=
  ⟨outcome, session.counts, session.store.events⟩

/-- Takes one turn as a step. -/
def step (config : Config) (session : Session) (turn : Turn Answer) :
    Except Abortion (Step × Session) :=
  match turn session.clearEvents with
  | .ok answer after => .ok (after.completed (.answered answer), after)
  | .error (.refused refusal) after => .ok (after.completed (.refused refusal), after)
  | .error (.fault (.panic cause)) after => .ok (after.completed (.panicked cause), after)
  | .error (.fault (.violation violation)) after =>
    .error (.violation violation config.channel after.store.events)
  | .error (.fault .collapse) _ => .error .collapse

/-- Takes turns one after the other, up to the first that ends the program. -/
def steps (config : Config) (session : Session) :
    List (Turn Answer) → List Step × Except Abortion Session
  | [] => ([], .ok session)
  | turn :: rest =>
    match session.step config turn with
    | .error abortion => ([], .error abortion)
    | .ok (step, after) =>
      let (later, result) := steps config after rest
      (step :: later, result)

/-- The handles that are still kept, in the order in which a closing program drops them. -/
def keptHandles (session : Session) : List Serial :=
  session.namesInOrder.map Prod.snd ++ session.membersInOrder .raw ++
    session.membersInOrder .packed

/-- Drops every handle that is still kept and collects the panics. -/
def dropHandles (config : Config) : Turn Answer := do
  let kept := (← get).keptHandles
  modify fun session => { session with names := [], rawSet := [], packedSet := [] }
  return .panics (← Turn.perform (Handle.releaseEach config kept))

/-- The turns that close a program. -/
def closing (session : Session) (config : Config) : List (Turn Answer) :=
  LookCommand.dump.run config :: dropHandles config ::
    session.store.referents.reverse.map fun referent =>
      (ReferentCommand.destroy referent.name).run config

end Session

/-- Commands with the configuration in which they run. -/
structure Program where
  /-- What is fixed for the run. -/
  config : Config
  /-- The commands in order. -/
  commands : List Command

namespace Program

/-- The steps of the commands, and the session that they lead to. -/
def body (program : Program) : List Step × Except Abortion Session :=
  Session.steps program.config {} (program.commands.map (Command.run program.config))

/-- Runs a program and closes it. -/
def run (program : Program) : Transcript :=
  match program.body with
  | (steps, .error abortion) => ⟨steps, some abortion⟩
  | (steps, .ok session) =>
    match session.steps program.config (session.closing program.config) with
    | (closing, .error abortion) => ⟨steps ++ closing, some abortion⟩
    | (closing, .ok _) => ⟨steps ++ closing, none⟩

end Program

end CountedHandles
