import CountedHandles.Handle
import CountedHandles.Roster
import CountedHandles.Session

/-!
# Answers

A command answers with a value of one of a few kinds. The largest is a dump of a session, which
shows every handle and every referent; builds that do not track handles show neither serial
numbers nor registrations.
-/

namespace CountedHandles

/-- A handle as a dump shows it. -/
structure HandleView where
  /-- Pointer or reference. -/
  form : Form
  /-- How the address is kept. -/
  scheme : Scheme
  /-- The serial number, if handles have any. -/
  serial? : Option Serial
  /-- The address. -/
  address : Address
deriving DecidableEq

/-- A referent as a dump shows it. -/
structure ReferentView where
  /-- The name. -/
  name : String
  /-- Where it lies. -/
  address : Address
  /-- How many handles hold it. -/
  count : Nat
  /-- What it carries. -/
  value : Int64
  /-- The registered handles, if there is a roster. -/
  roster? : Option (List (Serial × Provenance))
  /-- The handles that it owns. -/
  links : List HandleView
deriving DecidableEq

/-- All that can be seen of a session. -/
structure Dump where
  /-- The named handles. -/
  handles : List (String × HandleView)
  /-- The referents that exist. -/
  referents : List ReferentView
  /-- How many members the set of raw pointers has. -/
  rawMembers : Nat
  /-- How many members the set of packed pointers has. -/
  packedMembers : Nat
deriving DecidableEq

/-- What a command answers. -/
inductive Answer where
  | nothing
  | flag (value : Bool)
  | value (value : Int64)
  | values (values : List Int64)
  | serial (serial : Serial)
  | address (address : Address)
  | bytes (bytes : List UInt8)
  | text (text : String)
  | texts (texts : List String)
  | rows (rows : List (List String))
  | registrations (entries : List (Serial × Provenance))
  | panics (panics : List Panic)
  | dump (dump : Dump)
deriving DecidableEq

namespace Config

/-- The serial number of a handle, in builds that track handles. -/
def shownSerial? (config : Config) (serial : Serial) : Option Serial :=
  if config.build.tracking then some serial else none

/-- The registered handles of a referent, in builds that track handles. -/
def shownRoster? (config : Config) (referent : Referent) : Option (List (Serial × Provenance)) :=
  if config.build.tracking then some referent.roster.listing else none

end Config

namespace Session

/-- A handle as a dump shows it. -/
def viewHandle (config : Config) (handle : Handle) : HandleView :=
  ⟨handle.form, handle.scheme, config.shownSerial? handle.serial, handle.address⟩

/-- A referent as a dump shows it. -/
def viewReferent (session : Session) (config : Config) (referent : Referent) : ReferentView where
  name := referent.name
  address := referent.address
  count := referent.count
  value := referent.value
  roster? := config.shownRoster? referent
  links := (referent.links.filterMap session.store.handle?).map (viewHandle config)

/-- Shows every handle and every referent. -/
def dump (session : Session) (config : Config) : Dump where
  handles := session.namesInOrder.filterMap fun (name, serial) =>
    (session.store.handle? serial).map fun handle => (name, viewHandle config handle)
  referents := session.store.referents.map (session.viewReferent config)
  rawMembers := session.rawSet.length
  packedMembers := session.packedSet.length

end Session

end CountedHandles
