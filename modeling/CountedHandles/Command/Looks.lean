import CountedHandles.Answer
import CountedHandles.Command.Places

/-!
# Commands that look at handles

These commands change no handle; one of them writes to the referent that a handle holds. A handle
without a referent reads as nothing, and writing through it has no effect.
-/

namespace CountedHandles.LookCommand

open Turn

/-- The values that are met from a handle on along first links, up to a number of them. -/
def pathValues (store : Store) : (limit : Nat) → Serial → List Int64
  | 0, _ => []
  | limit + 1, start =>
    match (store.handle? start).bind store.targetOf? with
    | none => []
    | some referent =>
      referent.value ::
        match referent.links with
        | [] => []
        | next :: _ => pathValues store limit next

/-- How many values a path can have. -/
def pathLimit : Nat := 64

/-- Refuses to reach a referent in a way that a handle of some form does not offer. -/
def requireAccess (form : Form) : Access → Turn Unit
  | .optional => require (form == .pointer) .malformed
  | .pinned => pure ()
  | .direct => require (form == .reference) .notReference

/-- Runs a command that looks at handles. -/
def run (config : Config) : LookCommand → Turn Answer
  | .compare first second differ => do
    let a ← handle first
    let b ← handle second
    return .flag (a.equal b != differ)
  | .compareAddress name place => do
    let address ← resolve place
    return .flag ((← handle name).address == address)
  | .hash name => return .bytes (← handle name).hashBytes
  | .print name style => return .text ((← handle name).text style)
  | .address name => return .address (← handle name).address
  | .pointerAddress name => return .address (← pointer name).address
  | .isNull name => return .flag (← pointer name).slot.isNull
  | .isDeleted name => return .flag (← pointer name).slot.isDeleted
  | .serial name => return (config.shownSerial? (← handle name).serial).elim .nothing .serial
  | .read name access => do
    let handle ← handle name
    requireAccess handle.form access
    return ((← get).store.targetOf? handle).elim .nothing fun referent => .value referent.value
  | .write name value => do
    let handle ← handle name
    match (← get).store.targetOf? handle with
    | none => return .nothing
    | some referent =>
      modify fun session => { session with
        store := session.store.updateReferent referent.name fun target =>
          { target with value := value } }
      return .value referent.value
  | .path name => do
    let handle ← handle name
    return .values (pathValues (← get).store pathLimit handle.serial)
  | .dump => return .dump ((← get).dump config)

end CountedHandles.LookCommand
