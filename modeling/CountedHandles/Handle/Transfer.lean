import CountedHandles.Handle.Create

/-!
# Changing the form of a handle

A pointer that holds a referent can become a reference, and a reference can become a pointer. The
referent's count passes from one to the other and is not touched.
-/

namespace CountedHandles.Handle

open Operation

/-- Moves the referent of a pointer to a new reference and leaves null behind. -/
def toReference (config : Config) (handle : Handle) : Operation Serial := do
  match ← target? handle.serial with
  | none => panic .releasedNull
  | some _ =>
    modify fun store => store.setSlot handle.serial (Slot.null handle.scheme)
    recordLog (.releasing handle.address .reference)
    takeOver config .reference handle.slot handle.serial

/-- Turns a reference into a new pointer; the reference goes away without being dropped. -/
def toPointer (config : Config) (handle : Handle) : Operation Serial := do
  modify fun store => store.removeHandle handle.serial
  recordLog (.releasing handle.address .pointer)
  takeOver config .pointer handle.slot handle.serial

end CountedHandles.Handle
