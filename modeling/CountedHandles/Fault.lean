import CountedHandles.Roster
import CountedHandles.Text.Trim

/-!
# Faults

An operation ends early with a panic, with a lifetime violation, or with the collapse of the run:
that is where a panic meets another one while it unwinds, or a count can be raised no further. A
violation reports how many handles outlive their referent and, as far as they are registered, which.
Where backtraces were captured when handles were registered, the report shows them as well.
-/

namespace CountedHandles

/-- A referent was destroyed while handles held it. -/
structure Violation where
  /-- How many handles held it. -/
  outstanding : Nat
  /-- The registered ones, in order of serial number. -/
  registered : List (Serial × Provenance)
deriving DecidableEq

namespace Violation

/-- The first line of a report. -/
def header (violation : Violation) : String :=
  "checkedref lifetime violation: referent destroyed with " ++ toString violation.outstanding ++
    " outstanding checked pointer" ++ (if violation.outstanding = 1 then "" else "s")

/-- The line of a report about one registered handle. -/
def entryLine (entry : Serial × Provenance) : String :=
  "  handle " ++ entry.1.text ++ " (" ++ entry.2.text ++ ")"

/-- What a report says about a registered handle: its line, and its backtrace if one was captured. -/
def entryParts (backtrace? : Serial → Option String) (entry : Serial × Provenance) : List String :=
  entryLine entry :: (backtrace? entry.1).toList

/-- The parts of a report, each of which begins on a line of its own. -/
def parts (violation : Violation) (backtrace? : Serial → Option String) : List String :=
  violation.header :: violation.registered.flatMap (entryParts backtrace?)

/-- The whole report, given the backtraces that were captured. -/
def report (violation : Violation) (backtrace? : Serial → Option String := fun _ => none) :
    String :=
  trimEnd (String.join ((violation.parts backtrace?).map fun part => part ++ "\n"))

end Violation

/-- What ends an operation early. -/
inductive Fault where
  /-- A misuse was detected. -/
  | panic (panic : Panic)
  /-- A referent was destroyed too early; the run is over. -/
  | violation (violation : Violation)
  /-- A panic arose while another one unwound, or a count was to be raised above its limit; the run
  is over without a report. -/
  | collapse
deriving DecidableEq

end CountedHandles
