import CountedHandles.Handle.Release

/-!
# Creating handles

A new handle takes the next serial number. If it holds a referent, the referent counts it and is
told of it; an address that does not fit is refused before a serial number is taken. A handle that
takes over from another one is not counted again.
-/

namespace CountedHandles.Handle

open Operation

/-- Creates a pointer that holds null. -/
def null (scheme : Scheme) : Operation Serial :=
  addHandle .pointer (Slot.null scheme)

/-- Creates a pointer that is the mark of a deleted bucket. -/
def deleted (scheme : Scheme) : Operation Serial :=
  addHandle .pointer (Slot.deleted scheme)

/-- Creates a handle and announces it to the referent that it holds, if any. -/
def announced (config : Config) (form : Form) (slot : Slot)
    (announce : Serial → String → Operation Unit) : Operation Serial := do
  let serial ← addHandle form slot
  onTarget (← target? serial) fun name => withTemporary config serial (announce serial name)
  return serial

/-- Creates a handle that holds an address. -/
def ofAddress (config : Config) (form : Form) (scheme : Scheme) (address : Address) :
    Operation Serial :=
  match Slot.ofAddress scheme address with
  | .error cause => panic cause
  | .ok slot => announced config form slot fun serial name => do
    Referent.increment name
    Referent.notify config name (.register serial)

/-- Creates a handle of some form that holds what another handle holds. -/
def copyAs (config : Config) (form : Form) (source : Handle) : Operation Serial :=
  announced config form source.slot fun serial name => do
    Referent.increment name
    Referent.notify config name (.copy source.serial serial)

/-- Creates a handle like another one. -/
def copy (config : Config) (source : Handle) : Operation Serial :=
  copyAs config source.form source

/-- Creates a handle that takes over from another one, which no longer holds anything. -/
def takeOver (config : Config) (form : Form) (slot : Slot) (source : Serial) :
    Operation Serial :=
  announced config form slot fun serial name =>
    Referent.notify config name (.move source serial)

end CountedHandles.Handle
