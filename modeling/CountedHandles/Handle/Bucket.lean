import CountedHandles.Handle.Reassign

/-!
# Buckets of hash tables

A pointer can be a bucket of a hash table. When its entry is removed the bucket must come out as
the mark of a deleted one, and its referent must be released before that.
-/

namespace CountedHandles.Handle

open Operation

/-- Stops if a bucket is deleted already. -/
def requireNotDeleted (handle : Handle) : Operation Unit :=
  if handle.slot.isDeleted then panic .bucketDeleted else pure ()

/-- Deletes a bucket: its value is taken out and dropped, and then the bucket is marked. -/
def vacateBucket (config : Config) (handle : Handle) : Operation Unit := do
  requireNotDeleted handle
  recordLog (.reclaiming handle.address)
  let doomed ← moveOut config handle
  release config doomed
  markDeleted config handle

end CountedHandles.Handle
