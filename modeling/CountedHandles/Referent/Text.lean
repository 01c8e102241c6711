import CountedHandles.Referent
import CountedHandles.Text.Term

/-!
# Printed counters

The counter of a referent is printed with its count and its roster. Each registered handle shows
its provenance, and two dots stand for the rest of its registration.
-/

namespace CountedHandles

namespace Referent

/-- A serial number in diagnostic text. -/
def serialTerm (serial : Serial) : Term :=
  .group "HandleId" .tuple [.word (toString serial)]

/-- A provenance in diagnostic text. -/
def provenanceTerm : Provenance → Term
  | .created => .word "Constructed"
  | .copied source => .group "CopiedFrom" .tuple [serialTerm source]
  | .moved source => .group "MovedFrom" .tuple [serialTerm source]

/-- A registered handle in diagnostic text. -/
def entryTerm (entry : Serial × Provenance) : Term :=
  .entry (serialTerm entry.1)
    (.group "Registration" .record [.field "origin" (provenanceTerm entry.2), .omission])

/-- A roster in diagnostic text; where handles are not tracked it is a word of its own. -/
def rosterTerm (tracked : Bool) (roster : Roster) : Term :=
  if tracked then
    .group "Registry" .record [.field "handles" (.group "RefCell" .record
      [.field "value" (.group "" .table (roster.listing.map entryTerm))])]
  else .word "Registry"

/-- The counter of a referent in diagnostic text. -/
def counterTerm (tracked : Bool) (referent : Referent) : Term :=
  .group "PtrCounter" .record
    [.field "count" (.word (toString referent.count)),
     .field "registry" (rosterTerm tracked referent.roster)]

end Referent

end CountedHandles
