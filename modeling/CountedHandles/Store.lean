import CountedHandles.Event
import CountedHandles.Referent

/-!
# Stores

A store holds every handle and every referent that exists, including the temporary handles of an
operation in progress, and the events of the current step. A handle that is neither null nor
deleted has as its target the referent at the address that it holds. Serial numbers do not run out:
a process that has given out 2⁶⁴ of them ends, which is left out here.
-/

namespace CountedHandles

/-- All handles and referents that exist. -/
structure Store where
  /-- The serial number of the next handle. -/
  nextSerial : Serial := 1
  /-- The handles that exist. -/
  handles : List Handle := []
  /-- The referents that exist, in order of creation. -/
  referents : List Referent := []
  /-- What has happened, in order. -/
  events : List Event := []
deriving DecidableEq

namespace Store

/-- The handle with a given serial number. -/
def handle? (store : Store) (serial : Serial) : Option Handle :=
  store.handles.find? fun handle => handle.serial == serial

/-- The referent with a given name. -/
def referent? (store : Store) (name : String) : Option Referent :=
  store.referents.find? fun referent => referent.name == name

/-- The referent that lies at a given address. -/
def referentAt? (store : Store) (address : Address) : Option Referent :=
  store.referents.find? fun referent => referent.address == address

/-- The referent that a handle holds. -/
def targetOf? (store : Store) (handle : Handle) : Option Referent :=
  handle.slot.target?.bind store.referentAt?

/-- The name of the referent that a handle with a given serial number holds. -/
def target? (store : Store) (serial : Serial) : Option String :=
  ((store.handle? serial).bind store.targetOf?).map Referent.name

/-- The handles that hold a given address. -/
def holders (store : Store) (address : Address) : List Handle :=
  store.handles.filter fun handle => handle.address == address

/-- The handle that comes into being next, of some form and with some content. -/
def nextHandle (store : Store) (form : Form) (slot : Slot) : Handle :=
  ⟨store.nextSerial, form, slot⟩

/-- Adds a handle with the next serial number. -/
def addHandle (store : Store) (form : Form) (slot : Slot) : Store :=
  { store with
    nextSerial := store.nextSerial + 1
    handles := store.handles ++ [store.nextHandle form slot]
    events := store.events ++ [.created (store.nextHandle form slot)] }

/-- Puts something else in the slot of a handle. -/
def setSlot (store : Store) (serial : Serial) (slot : Slot) : Store :=
  { store with
    handles := store.handles.map fun handle =>
      if handle.serial == serial then { handle with slot := slot } else handle }

/-- Lets two handles change the contents of their slots. -/
def exchangeSlots (store : Store) (a b : Serial) : Store :=
  match store.handle? a, store.handle? b with
  | some first, some second => (store.setSlot a second.slot).setSlot b first.slot
  | _, _ => store

/-- Takes a handle out without telling its referent. -/
def removeHandle (store : Store) (serial : Serial) : Store :=
  { store with handles := store.handles.filter fun handle => handle.serial != serial }

/-- Adds a referent that nothing holds yet. -/
def addReferent (store : Store) (name : String) (address : Address) (value : Int64) : Store :=
  { store with referents := store.referents ++ [⟨name, address, value, [], 0, .empty⟩] }

/-- Changes the referent with a given name. -/
def updateReferent (store : Store) (name : String) (change : Referent → Referent) : Store :=
  { store with
    referents := store.referents.map fun referent =>
      if referent.name == name then change referent else referent }

/-- Takes a referent out. -/
def removeReferent (store : Store) (name : String) : Store :=
  { store with referents := store.referents.filter fun referent => referent.name != name }

/-- Adds an event. -/
def addEvent (store : Store) (event : Event) : Store :=
  { store with events := store.events ++ [event] }

/-- Forgets what has happened. -/
def clearEvents (store : Store) : Store :=
  { store with events := [] }

end Store

end CountedHandles
