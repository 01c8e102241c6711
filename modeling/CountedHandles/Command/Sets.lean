import CountedHandles.Answer
import CountedHandles.Command

/-!
# Commands on sets of pointers

There is one set for each scheme, and pointers belong to the set of their scheme. A set never has
two members that hold the same address.
-/

namespace CountedHandles.SetCommand

open Turn

/-- The member of the set of a pointer's scheme that is equal to it. -/
def equalMember? (pointer : Handle) : Turn (Option Serial) := do
  let session ← get
  return (session.members pointer.scheme).find? fun serial =>
    (session.store.handle? serial).any fun member => member.equal pointer

/-- Adds a pointer to its set. -/
def addMember (pointer : Handle) : Turn Unit :=
  modify fun session =>
    session.setMembers (session.members pointer.scheme ++ [pointer.serial]) pointer.scheme

/-- Takes a member out of the set of a scheme. -/
def removeMember (scheme : Scheme) (serial : Serial) : Turn Unit :=
  modify fun session =>
    session.setMembers ((session.members scheme).filter fun member => member != serial) scheme

/-- Runs a command on sets. -/
def run (config : Config) : SetCommand → Turn Answer
  | .insert name => do
    let pointer ← pointer name
    let member? ← equalMember? pointer
    freeName name
    match member? with
    | none =>
      addMember pointer
      return .flag true
    | some _ =>
      perform (Handle.release config pointer.serial)
      return .flag false
  | .replace old name => do
    let pointer ← pointer name
    let member? ← equalMember? pointer
    freeName name
    match member? with
    | none =>
      addMember pointer
      return .flag false
    | some member =>
      removeMember pointer.scheme member
      addMember pointer
      keep config old member
      return .flag true
  | .contains name => do
    let pointer ← pointer name
    return .flag (← equalMember? pointer).isSome
  | .remove name => do
    let pointer ← pointer name
    match ← equalMember? pointer with
    | none => return .flag false
    | some member =>
      removeMember pointer.scheme member
      perform (Handle.release config member)
      return .flag true
  | .take old name => do
    let pointer ← pointer name
    match ← equalMember? pointer with
    | none => return .flag false
    | some member =>
      removeMember pointer.scheme member
      keep config old member
      return .flag true

end CountedHandles.SetCommand
