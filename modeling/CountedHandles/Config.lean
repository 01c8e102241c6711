import CountedHandles.Address.Site

/-!
# Configurations

A run is fixed by its build, by the kind of its referents and by how much it logs. The build says
whether handles are tracked and whether misuse is asserted against; the kind says how a referent
takes what it is told, when it is checked and where it can lie.
-/

namespace CountedHandles

/-- The diagnostics that are built in. -/
structure Build where
  /-- Handles have serial numbers, and referents are told which handles hold them. -/
  tracking : Bool
  /-- Misuse of a count or of a roster panics. -/
  assertions : Bool
deriving DecidableEq

/-- What kind of object all referents of a run are: what they do when they are told which handles
hold them, when they are checked, and where they can lie. -/
structure ReferentKind where
  /-- A referent keeps its roster up to date; otherwise it takes no notice of what it is told. -/
  keepsRoster : Bool
  /-- Every call that a referent receives is shown. -/
  showsCalls : Bool
  /-- The count is checked before the links are dropped. -/
  checksFirst : Bool
  /-- The addresses at which the memory of the run has room for a referent. -/
  arena : Address → Bool

namespace ReferentKind

/-- Whether a referent can be placed at an address, which must be a site that the arena has. -/
def offers (kind : ReferentKind) (address : Address) : Bool :=
  address.isSite && kind.arena address

/-- What is offered is a site. -/
theorem isSite_of_offers {kind : ReferentKind} {address : Address}
    (h : kind.offers address = true) : address.isSite = true :=
  (Bool.and_eq_true_iff.mp h).1

/-- Keeps a roster and is checked once its links are gone. -/
def ordinary : ReferentKind where
  keepsRoster := true
  showsCalls := false
  checksFirst := false
  arena := Address.onGrid

/-- Keeps a roster and is checked while it still has its links. -/
def early : ReferentKind :=
  { ordinary with checksFirst := true }

/-- Like an ordinary referent, and shows every call that it receives. -/
def recorder : ReferentKind :=
  { ordinary with showsCalls := true }

/-- Checked once its links are gone, and takes no notice of which handles hold it. -/
def mute : ReferentKind :=
  { ordinary with keepsRoster := false }

end ReferentKind

/-- Levels of logging, from none to all. -/
inductive LogLevel where
  | off
  | error
  | warn
  | info
  | debug
  | trace
deriving DecidableEq

namespace LogLevel

/-- The place of a level in their order. -/
def rank : LogLevel → Nat
  | .off => 0
  | .error => 1
  | .warn => 2
  | .info => 3
  | .debug => 4
  | .trace => 5

/-- Whether a log kept at some level takes records of another. -/
def includes (level record : LogLevel) : Bool :=
  record.rank ≤ level.rank

/-- The name of a level in a log. -/
def text : LogLevel → String
  | .off => "OFF"
  | .error => "ERROR"
  | .warn => "WARN"
  | .info => "INFO"
  | .debug => "DEBUG"
  | .trace => "TRACE"

end LogLevel

/-- All that is fixed for a run. -/
structure Config where
  /-- The diagnostics that are built in. -/
  build : Build
  /-- The kind of all referents. -/
  kind : ReferentKind
  /-- The level of the log. -/
  log : LogLevel

end CountedHandles
