import CountedHandles.Handle.Release
import CountedHandles.Sorting

/-!
# Sessions

A session is the state between the commands of a program: a store together with the places where
handles are kept, which are names and two sets of pointers. A command is refused before it changes
anything if it makes no sense or would be unsafe.
-/

namespace CountedHandles

/-- The state of a program between commands. -/
structure Session where
  /-- The handles and referents that exist. -/
  store : Store := {}
  /-- The names of all referents so far, in order of creation. -/
  created : List String := []
  /-- The handles that are kept under names. -/
  names : List (String × Serial) := []
  /-- The members of the set of raw pointers. -/
  rawSet : List Serial := []
  /-- The members of the set of packed pointers. -/
  packedSet : List Serial := []
deriving DecidableEq

/-- Why a command is refused. -/
inductive Refusal where
  /-- No handle has the name. -/
  | unknownHandle
  /-- No referent ever had the name. -/
  | unknownReferent
  /-- The referent with the name has been destroyed. -/
  | deadReferent
  /-- The handle is a reference and the command is for pointers. -/
  | notPointer
  /-- The handle is a pointer and the command is for references. -/
  | notReference
  /-- The types of two handles do not go together. -/
  | mismatch
  /-- One handle is named twice. -/
  | sameHandle
  /-- The command is malformed. -/
  | malformed
  /-- The command could make a handle outlive its referent. -/
  | dangerous
  /-- A referent of the name was created before. -/
  | nameTaken
  /-- No referent can be created at the address. -/
  | badAddress
  /-- There is no link at the index. -/
  | badIndex
  /-- The build does not track handles. -/
  | untracked
  /-- The roster has several entries, whose order is not determined. -/
  | unordered
deriving DecidableEq

/-- What can cut a command short. -/
inductive Stop where
  | refused (refusal : Refusal)
  | fault (fault : Fault)
deriving DecidableEq

/-- A change of a session that may be cut short. -/
abbrev Turn := EStateM Stop Session

namespace Session

/-- The serial number of the handle under a name. -/
def serial? (session : Session) (name : String) : Option Serial :=
  (session.names.find? fun entry => entry.1 == name).map Prod.snd

/-- The handle under a name. -/
def handle? (session : Session) (name : String) : Option Handle :=
  (session.serial? name).bind session.store.handle?

/-- Frees a name. -/
def freeName (session : Session) (name : String) : Session :=
  { session with names := session.names.filter fun entry => entry.1 != name }

/-- Lets a name stand for a handle. -/
def bindName (session : Session) (name : String) (serial : Serial) : Session :=
  { session with names := (session.freeName name).names ++ [(name, serial)] }

/-- The members of the set for one scheme. -/
def members (session : Session) : Scheme → List Serial
  | .raw => session.rawSet
  | .packed => session.packedSet

/-- Changes the set for one scheme. -/
def setMembers (session : Session) (members : List Serial) : Scheme → Session
  | .raw => { session with rawSet := members }
  | .packed => { session with packedSet := members }

/-- The count of every referent so far, if it still exists. -/
def counts (session : Session) : List (Option Nat) :=
  session.created.map fun name => (session.store.referent? name).map Referent.count

/-- The named handles in order of their names. -/
def namesInOrder (session : Session) : List (String × Serial) :=
  Sorting.sort (fun a b => decide (a.1 ≤ b.1)) session.names

/-- The members of a set in order of the addresses that they hold. -/
def membersInOrder (session : Session) (scheme : Scheme) : List Serial :=
  (Sorting.sort (fun a b : Handle => decide (a.address ≤ b.address))
    ((session.members scheme).filterMap session.store.handle?)).map Handle.serial

end Session

namespace Turn

/-- Refuses a command. -/
def refuse (refusal : Refusal) : Turn α :=
  throw (.refused refusal)

/-- Refuses a command unless a condition holds. -/
def require (condition : Bool) (refusal : Refusal) : Turn Unit :=
  if condition then pure () else refuse refusal

/-- Lets an operation change the store. -/
def perform (operation : Operation α) : Turn α := fun session =>
  match operation session.store with
  | .ok result after => .ok result { session with store := after }
  | .error fault after => .error (.fault fault) { session with store := after }

/-- The handle under a name. -/
def handle (name : String) : Turn Handle := do
  match (← get).handle? name with
  | some found => pure found
  | none => refuse .unknownHandle

/-- The pointer under a name. -/
def pointer (name : String) : Turn Handle := do
  let found ← handle name
  require (found.form == .pointer) .notPointer
  return found

/-- The reference under a name. -/
def reference (name : String) : Turn Handle := do
  let found ← handle name
  require (found.form == .reference) .notReference
  return found

/-- Two different handles under names. -/
def distinct (first second : String) : Turn (Handle × Handle) := do
  let a ← handle first
  let b ← handle second
  require (first != second) .sameHandle
  return (a, b)

/-- The referent with a name. -/
def referent (name : String) : Turn Referent := do
  let session ← get
  match session.store.referent? name with
  | some found => pure found
  | none =>
    require (session.created.contains name) .unknownReferent
    refuse .deadReferent

/-- Keeps a handle under a name; the handle that was kept there before is dropped afterwards. -/
def keep (config : Config) (name : String) (serial : Serial) : Turn Unit := do
  let old? := (← get).serial? name
  modify fun session => session.bindName name serial
  match old? with
  | none => pure ()
  | some old => perform (Handle.release config old)

/-- Takes a handle from its name. -/
def freeName (name : String) : Turn Unit :=
  modify fun session => session.freeName name

end Turn

end CountedHandles
