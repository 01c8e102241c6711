import CountedHandles.Command.Calls
import CountedHandles.Command.Changes
import CountedHandles.Command.Handles
import CountedHandles.Command.Looks
import CountedHandles.Command.Referents
import CountedHandles.Command.Sets

/-!
# Running commands

Every command is a turn of the session. A command reads its arguments as it needs them, so one that
cannot be read to its end is refused as malformed only if what it needs before that is there.
-/

namespace CountedHandles

/-- Refuses a command unless a precondition holds. -/
def Turn.establish (config : Config) : Precondition → Turn Unit
  | .tracking => require config.build.tracking .untracked
  | .place place => do
    let _ ← resolve place
  | .handle name => do
    let _ ← handle name
  | .pointer name => do
    let _ ← pointer name
  | .reference name => do
    let _ ← reference name

namespace Command

open Turn

/-- Runs a command. -/
def run (config : Config) : Command → Turn Answer
  | .onReferent command => command.run config
  | .onHandle command => command.run config
  | .change command => command.run config
  | .look command => command.run config
  | .onSet command => command.run config
  | .call command => command.run config
  | .unreadable preconditions => do
    preconditions.forM (establish config)
    refuse .malformed

end Command

end CountedHandles
