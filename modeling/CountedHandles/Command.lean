import CountedHandles.Handle.Text
import CountedHandles.Roster

/-!
# Commands

A program is a sequence of commands on named referents and named handles. Some create and destroy
referents, some create, change and inspect handles, some work on sets of pointers, and some call a
referent directly, as no handle would.
-/

namespace CountedHandles

/-- An address that is given directly or as the place of a referent. -/
inductive Place where
  | address (address : Address)
  | referent (name : String)
deriving DecidableEq

/-- Commands on referents and on the links that they own. -/
inductive ReferentCommand where
  /-- Create a referent, at its default site unless an address is given. -/
  | create (name : String) (value : Int64) (address? : Option Address)
  /-- Destroy a referent. -/
  | destroy (name : String)
  /-- List the registered handles. -/
  | roster (name : String)
  /-- List the registered handles with their diagnostic texts. -/
  | provenances (name : String)
  /-- Print the counter in both layouts. -/
  | printCounter (name : String)
  /-- Move a handle to the end of the links. -/
  | attach (name handle : String)
  /-- Move a link to a name. -/
  | detach (handle name : String) (index : Nat)

/-- Commands that create a handle, move one, or drop one. -/
inductive HandleCommand where
  /-- Create a pointer that holds null. -/
  | null (name : String) (scheme : Scheme)
  /-- Create a pointer that is the mark of a deleted bucket. -/
  | deleted (name : String) (scheme : Scheme)
  /-- Create a handle to a referent. -/
  | hold (form : Form) (name : String) (scheme : Scheme) (referent : String)
  /-- Create a handle from an address. -/
  | holdAddress (form : Form) (name : String) (scheme : Scheme) (place : Place)
  /-- Create a handle like another one. -/
  | copy (name source : String)
  /-- Create a pointer like a reference. -/
  | copyReference (name source : String)
  /-- Move the value of a pointer to a new one. -/
  | moveOut (name source : String)
  /-- Move the referent of a pointer to a new reference. -/
  | toReference (name source : String)
  /-- Turn a reference into a pointer. -/
  | toPointer (name source : String)
  /-- Move a handle to another name. -/
  | rename (name source : String)
  /-- Drop a handle. -/
  | drop (name : String)

/-- Commands that give a handle another value. -/
inductive ChangeCommand where
  /-- Make a pointer hold what another one holds. -/
  | assignPointer (name source : String)
  /-- Move the value of a pointer to another one. -/
  | assignMove (name source : String)
  /-- Make a handle hold what another one of its type holds. -/
  | assignHandle (name source : String)
  /-- Let two handles of one type change their contents. -/
  | swap (name other : String)
  /-- Make a handle hold a referent. -/
  | pointAt (name referent : String)
  /-- Make a handle hold an address. -/
  | pointAtAddress (name : String) (place : Place)
  /-- Make a pointer hold null. -/
  | clear (name : String)
  /-- Make a pointer the mark of a deleted bucket. -/
  | markDeleted (name : String)
  /-- Delete a bucket by taking its value out. -/
  | vacateBucket (name : String)
  /-- Delete a bucket by putting another handle in its place. -/
  | replaceBucket (name : String)

/-- The ways to reach a referent through a handle. -/
inductive Access where
  /-- As something that may be missing; only pointers offer it. -/
  | optional
  /-- As a pinned place; every handle offers it. -/
  | pinned
  /-- As something that is there; only references offer it. -/
  | direct
deriving DecidableEq

/-- Commands that look at handles and at what they hold. -/
inductive LookCommand where
  /-- Compare two handles; on request ask whether they differ. -/
  | compare (first second : String) (differ : Bool)
  /-- Compare a handle with an address. -/
  | compareAddress (name : String) (place : Place)
  /-- Feed a handle to a hasher. -/
  | hash (name : String)
  /-- Print a handle. -/
  | print (name : String) (style : Handle.Style)
  /-- Look at the address of a handle. -/
  | address (name : String)
  /-- Look at the address of a pointer. -/
  | pointerAddress (name : String)
  /-- Ask whether a pointer holds null. -/
  | isNull (name : String)
  /-- Ask whether a pointer is the mark of a deleted bucket. -/
  | isDeleted (name : String)
  /-- Look at the serial number of a handle. -/
  | serial (name : String)
  /-- Read the value of the referent of a handle. -/
  | read (name : String) (access : Access)
  /-- Change the value of the referent of a handle. -/
  | write (name : String) (value : Int64)
  /-- Collect the values along first links. -/
  | path (name : String)
  /-- Show all handles and referents. -/
  | dump

/-- Commands on the two sets of pointers. -/
inductive SetCommand where
  /-- Move a pointer in unless an equal one is there. -/
  | insert (name : String)
  /-- Move a pointer in, and an equal one out to a name. -/
  | replace (old name : String)
  /-- Ask whether an equal pointer is there. -/
  | contains (name : String)
  /-- Drop the equal pointer. -/
  | remove (name : String)
  /-- Move the equal pointer out to a name. -/
  | take (old name : String)

/-- A notice whose handles are given by name. -/
inductive NamedNotice where
  | register (name : String)
  | unregister (name : String)
  | copy (source destination : String)
  | move (source destination : String)
deriving DecidableEq

/-- Commands that call a referent directly. -/
inductive CallCommand where
  /-- Raise the count. -/
  | increment (referent : String)
  /-- Lower the count. -/
  | decrement (referent : String)
  /-- Give notice of handles. -/
  | notify (referent : String) (notice : NamedNotice)

/-- What has to hold before a command reads on. -/
inductive Precondition where
  /-- The build tracks handles. -/
  | tracking
  /-- An address is given, or the place of a referent that exists. -/
  | place (place : Place)
  /-- A handle has the name. -/
  | handle (name : String)
  /-- A pointer has the name. -/
  | pointer (name : String)
  /-- A reference has the name. -/
  | reference (name : String)
deriving DecidableEq

/-- What a program can ask for. -/
inductive Command where
  | onReferent (command : ReferentCommand)
  | onHandle (command : HandleCommand)
  | change (command : ChangeCommand)
  | look (command : LookCommand)
  | onSet (command : SetCommand)
  | call (command : CallCommand)
  /-- A command that cannot be read beyond some preconditions. -/
  | unreadable (preconditions : List Precondition)

/-- Whether a command calls a referent directly. -/
def Command.isCall : Command → Bool
  | .call _ => true
  | _ => false

end CountedHandles
