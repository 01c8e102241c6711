import CountedHandles.Answer
import CountedHandles.Command.Places
import CountedHandles.Handle.Bucket

/-!
# Commands that change handles

Two handles exchange or share a value only if they are different handles of one type.
-/

namespace CountedHandles.ChangeCommand

open Turn

/-- Lets an operation change the store; there is nothing to answer. -/
def act (operation : Operation Unit) : Turn Answer := do
  perform operation
  return .nothing

/-- Two different handles of one type, which on request must be pointers. -/
def sameType (first second : String) (pointers : Bool) : Turn (Handle × Handle) := do
  let (a, b) ← distinct first second
  require (a.sameType b && (!pointers || a.form == .pointer)) .mismatch
  return (a, b)

/-- Deletes a bucket by putting a new null pointer in its place, dropping the old one, and then
marking the new one. -/
def runReplaceBucket (config : Config) (name : String) : Turn Answer := do
  let doomed ← pointer name
  perform (Handle.requireNotDeleted doomed)
  let fresh ← perform (Handle.null doomed.scheme)
  keep config name fresh
  let bucket ← pointer name
  act (Handle.markDeleted config bucket)

/-- Runs a command that changes handles. -/
def run (config : Config) : ChangeCommand → Turn Answer
  | .assignPointer name source => do
    let (handle, other) ← sameType name source true
    act (Handle.assignCopy config handle other)
  | .assignMove name source => do
    let (handle, other) ← sameType name source true
    act (Handle.assignMove config handle other)
  | .assignHandle name source => do
    let (handle, other) ← sameType name source false
    act (Handle.assignCopy config handle other)
  | .swap name other => do
    let (handle, other) ← sameType name other false
    act (Handle.swap config handle.serial other.serial)
  | .pointAt name referentName => do
    let referent ← referent referentName
    let handle ← handle name
    act (Handle.pointAt config handle referent.address)
  | .pointAtAddress name place => do
    let handle ← handle name
    let address ← resolveFor handle.form handle.scheme place
    act (Handle.pointAt config handle address)
  | .clear name => do
    let handle ← pointer name
    act (Handle.clear config handle)
  | .markDeleted name => do
    let handle ← pointer name
    act (Handle.markDeleted config handle)
  | .vacateBucket name => do
    let handle ← pointer name
    act (Handle.vacateBucket config handle)
  | .replaceBucket name => runReplaceBucket config name

end CountedHandles.ChangeCommand
