import CountedHandles.Answer
import CountedHandles.Command

/-!
# Commands that call referents

A referent can be called directly, whether or not the call agrees with the handles that hold it.
Notices exist only in builds that track handles.
-/

namespace CountedHandles.CallCommand

open Turn

/-- A notice with the serial numbers of the handles that it names. -/
def resolve : NamedNotice → Turn Notice
  | .register name => return .register (← handle name).serial
  | .unregister name => return .unregister (← handle name).serial
  | .copy source destination => do
    let source ← handle source
    let destination ← handle destination
    return .copy source.serial destination.serial
  | .move source destination => do
    let source ← handle source
    let destination ← handle destination
    return .move source.serial destination.serial

/-- Runs a direct call. -/
def run (config : Config) : CallCommand → Turn Answer
  | .increment referentName => do
    let referent ← referent referentName
    perform (Referent.increment referent.name)
    return .nothing
  | .decrement referentName => do
    let referent ← referent referentName
    perform (Referent.decrement config referent.name)
    return .nothing
  | .notify referentName notice => do
    require config.build.tracking .untracked
    let referent ← referent referentName
    perform (Referent.notify config referent.name (← resolve notice))
    return .nothing

end CountedHandles.CallCommand
