import CountedHandles.Handle.Create

/-!
# Reassigning handles

A handle gets a new value by changing contents with a temporary handle that holds it, which is then
dropped along with the old value. So the new value is held before the old one is given up. Serial
numbers stay with the handles: when two handles with different referents change contents, each
registration moves from one handle to the other.
-/

namespace CountedHandles.Handle

open Operation

/-- Lets two handles change their contents. -/
def swap (config : Config) (a b : Serial) : Operation Unit := do
  modify fun store => store.exchangeSlots a b
  let mine? ← target? a
  let theirs? ← target? b
  if mine? ≠ theirs? then
    onTarget mine? fun name => Referent.notify config name (.move b a)
    onTarget theirs? fun name => Referent.notify config name (.move a b)

/-- Gives a handle the value of a temporary one, which is dropped with the old value. -/
def reassign (config : Config) (serial replacement : Serial) : Operation Unit := do
  withTemporary config replacement (swap config serial replacement)
  release config replacement

/-- Moves the value of a pointer to a new one and leaves null behind. -/
def moveOut (config : Config) (source : Handle) : Operation Serial := do
  let taken ← null source.scheme
  withTemporary config taken (swap config taken source.serial)
  return taken

/-- Makes a handle hold an address. -/
def pointAt (config : Config) (handle : Handle) (address : Address) : Operation Unit := do
  let replacement ← ofAddress config handle.form handle.scheme address
  reassign config handle.serial replacement

/-- Makes a pointer hold null. -/
def clear (config : Config) (handle : Handle) : Operation Unit := do
  let replacement ← null handle.scheme
  reassign config handle.serial replacement

/-- Makes a pointer the mark of a deleted bucket. -/
def markDeleted (config : Config) (handle : Handle) : Operation Unit := do
  let replacement ← deleted handle.scheme
  reassign config handle.serial replacement

/-- Makes a handle hold what another one holds. -/
def assignCopy (config : Config) (handle source : Handle) : Operation Unit := do
  let replacement ← copy config source
  reassign config handle.serial replacement

/-- Moves the value of one pointer to another and leaves null behind. -/
def assignMove (config : Config) (handle source : Handle) : Operation Unit := do
  let replacement ← moveOut config source
  reassign config handle.serial replacement

end CountedHandles.Handle
