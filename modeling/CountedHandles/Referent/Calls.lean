import CountedHandles.Store.Operation

/-!
# Calls to referents

The handles that hold a referent call it: to raise or lower its count, and, in builds that track
handles, to tell it which handles hold it. Every call becomes an event before it takes effect. A
count is kept in a machine word; the process ends rather than let it wrap, since a count that starts
again from zero would no longer protect the referent.
-/

namespace CountedHandles.Referent

open Operation

/-- The largest number that a machine word of 64 bits holds. -/
def wordMax : Nat := 0xffffffffffffffff

/-- The largest count that a referent can keep. All handles that exist are in memory at once, so a
word has room for their number in any case. -/
def countLimit (store : Store) : Nat :=
  max wordMax store.handles.length

/-- Whether the count of a referent can be raised no further. -/
def isFull (name : String) : Operation Bool := do
  let store ← get
  return (store.referent? name).any fun referent => countLimit store ≤ referent.count

/-- One more handle holds a referent; a count that can be raised no further ends the run. -/
def increment (name : String) : Operation Unit := do
  recordCall ⟨name, .increment⟩
  if ← isFull name then throw .collapse
  modify fun store => store.updateReferent name fun referent =>
    { referent with count := referent.count + 1 }

/-- Whether the count of a referent is zero. -/
def isUncounted (name : String) : Operation Bool :=
  return ((← get).referent? name).all fun referent => referent.count == 0

/-- One handle less holds a referent; a count of zero stays zero. -/
def decrement (config : Config) (name : String) : Operation Unit := do
  recordCall ⟨name, .decrement⟩
  if config.build.assertions && (← isUncounted name) then panic .countUnderflow
  modify fun store => store.updateReferent name fun referent =>
    { referent with count := referent.count - 1 }

/-- Lets the roster of a referent follow a notice. -/
def follow (config : Config) (name : String) (notice : Notice) : Operation Unit := do
  recordLog (.following notice)
  match (← get).referent? name with
  | none => pure ()
  | some referent =>
    let (roster, objection?) := referent.roster.follow config.build.assertions notice
    modify fun store => store.updateReferent name fun referent =>
      { referent with roster := roster }
    match objection? with
    | none => pure ()
    | some cause => panic cause

/-- Tells a referent which handles hold it, in builds that track them; a mute referent takes no
notice. -/
def notify (config : Config) (name : String) (notice : Notice) : Operation Unit := do
  if config.build.tracking then
    recordCall ⟨name, .notice notice⟩
    if config.kind.keepsRoster then follow config name notice

end CountedHandles.Referent
