import CountedHandles.Answer
import CountedHandles.Command.Places
import CountedHandles.Handle.Reassign
import CountedHandles.Handle.Transfer

/-!
# Commands that create and drop handles

A new handle is complete before it is kept under its name, and the handle that was kept there is
dropped last.
-/

namespace CountedHandles.HandleCommand

open Turn

/-- Creates a handle and keeps it under a name. -/
def keepNew (config : Config) (name : String) (creation : Operation Serial) : Turn Answer := do
  let serial ← perform creation
  keep config name serial
  return .nothing

/-- Runs a command that creates, moves or drops a handle. -/
def run (config : Config) : HandleCommand → Turn Answer
  | .null name scheme => keepNew config name (Handle.null scheme)
  | .deleted name scheme => keepNew config name (Handle.deleted scheme)
  | .hold form name scheme referentName => do
    let referent ← referent referentName
    keepNew config name (Handle.ofAddress config form scheme referent.address)
  | .holdAddress form name scheme place => do
    let address ← resolveFor form scheme place
    keepNew config name (Handle.ofAddress config form scheme address)
  | .copy name source => do
    let handle ← handle source
    keepNew config name (Handle.copy config handle)
  | .copyReference name source => do
    let handle ← reference source
    keepNew config name (Handle.copyAs config .pointer handle)
  | .moveOut name source => do
    let handle ← pointer source
    keepNew config name (Handle.moveOut config handle)
  | .toReference name source => do
    let handle ← pointer source
    keepNew config name (Handle.toReference config handle)
  | .toPointer name source => do
    let handle ← reference source
    freeName source
    keepNew config name (Handle.toPointer config handle)
  | .rename name source => do
    let handle ← handle source
    freeName source
    keep config name handle.serial
    return .nothing
  | .drop name => do
    let handle ← handle name
    freeName name
    perform (Handle.release config handle.serial)
    return .nothing

end CountedHandles.HandleCommand
