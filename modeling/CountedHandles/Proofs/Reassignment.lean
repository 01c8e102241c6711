import CountedHandles.Proofs.Turns

/-!
# Reassignments

Some commands give one handle one new value and leave all other handles alone, except for the handle
that may give the value away. This file tells from a session which handle gets which value, and says
through which acts the store goes.
-/

namespace CountedHandles

/-- What a handle is given. -/
structure Reassignment where
  /-- The handle as it is before. -/
  handle : Handle
  /-- The value that it gets. -/
  value : Slot
  /-- The handle that gives the value away, if one does. -/
  giver? : Option Serial

/-- The name of the handle that a command gives a new value, if that is all the command is for. -/
def ChangeCommand.reassigns? : ChangeCommand → Option String
  | .assignPointer name _ => some name
  | .assignMove name _ => some name
  | .assignHandle name _ => some name
  | .pointAt name _ => some name
  | .pointAtAddress name _ => some name
  | .clear name => some name
  | .markDeleted name => some name
  | .swap _ _ => none
  | .vacateBucket _ => none
  | .replaceBucket _ => none

namespace Session

/-- A slot of some scheme that holds the address that is meant by a place. -/
def slotFor? (session : Session) (scheme : Scheme) (place : Place) : Option Slot :=
  (session.addressOf? place).bind fun address => (Slot.ofAddress scheme address).toOption

/-- What a command gives a handle of some scheme, and which handle gives it away. -/
def given? (session : Session) (scheme : Scheme) : ChangeCommand → Option (Slot × Option Serial)
  | .assignPointer _ source => (session.handle? source).map fun other => (other.slot, none)
  | .assignMove _ source =>
    (session.handle? source).map fun giver => (giver.slot, some giver.serial)
  | .assignHandle _ source => (session.handle? source).map fun other => (other.slot, none)
  | .pointAt _ referent =>
    (session.slotFor? scheme (.referent referent)).map fun slot => (slot, none)
  | .pointAtAddress _ place => (session.slotFor? scheme place).map fun slot => (slot, none)
  | .clear _ => some (Slot.null scheme, none)
  | .markDeleted _ => some (Slot.deleted scheme, none)
  | .swap _ _ => none
  | .vacateBucket _ => none
  | .replaceBucket _ => none

/-- The reassignment that a command comes to in a session. -/
def reassignment? (session : Session) (command : ChangeCommand) : Option Reassignment := do
  let handle ← session.handle? (← command.reassigns?)
  let (value, giver?) ← session.given? handle.scheme command
  return ⟨handle, value, giver?⟩

end Session

/-- What becomes of a store in which a handle gets a new value. -/
inductive Store.Reassigns (config : Config) (store : Store) : Reassignment → Store → Prop
  /-- A new handle is given the value, as its own or as a copy, and changes contents with the old
  one. -/
  | renew {handle : Handle} {slot : Slot} {provenance : Provenance}
      (found : store.handle? handle.serial = some handle) (scheme_eq : slot.scheme = handle.scheme)
      (settled : (store.nextHandle handle.form slot).Settled store)
      (provenance_eq : provenance = .created ∨
        ∃ source ∈ store.handles, source.slot = slot ∧ provenance = .copied source.serial) :
      Reassigns config store ⟨handle, slot, none⟩
        (store.renewed config handle.serial handle.form slot provenance)
  /-- A new handle is given the value of a pointer, which is left empty, and changes contents with
  the old one. -/
  | move {first second : Handle} (found_first : store.handle? first.serial = some first)
      (found_second : store.handle? second.serial = some second)
      (first_form : first.form = .pointer) (second_form : second.form = .pointer)
      (scheme_eq : first.scheme = second.scheme) (ne : first.serial ≠ second.serial) :
      Reassigns config store ⟨first, second.slot, some second.serial⟩
        ((store.movedOut config second.scheme second.serial).reassigned config first.serial
          store.nextSerial)

/-- What a session is left as by a command that gives a handle a new value. -/
def Session.Reassigns (config : Config) (session : Session) (command : ChangeCommand)
    (after : Session) : Prop :=
  ∃ change store, session.reassignment? command = some change ∧
    session.store.Reassigns config change store ∧ after = { session with store := store }

variable {config : Config} {store after : Store} {session : Session} {command : ChangeCommand}
  {change : Reassignment} {name : String}

/-- A reassignment alters a store. -/
theorem Store.Reassigns.alteration (h : store.Reassigns config change after) :
    store.Alteration config after := by
  cases h with
  | renew found scheme_eq settled provenance_eq =>
    exact .renew found scheme_eq settled provenance_eq
  | move found_first found_second first_form second_form scheme_eq ne =>
    exact .move found_first found_second first_form second_form scheme_eq ne

namespace Session

/-- A command comes to the reassignment of the handle under its name. -/
theorem reassignment?_eq_some_iff (hreassigns : command.reassigns? = some name) :
    session.reassignment? command = some change ↔
      session.handle? name = some change.handle ∧
        session.given? change.handle.scheme command = some (change.value, change.giver?) := by
  simp only [reassignment?, hreassigns, bind, Option.bind_some, Option.bind_eq_some_iff, pure,
    Option.some.injEq]
  constructor
  · rintro ⟨handle, hhandle, ⟨value, giver?⟩, hgiven, rfl⟩
    exact ⟨hhandle, hgiven⟩
  · rintro ⟨hhandle, hgiven⟩
    exact ⟨_, hhandle, _, hgiven, rfl⟩

/-- A command that gives a handle a new value alters the store and nothing else. -/
theorem Reassigns.alteration {after : Session} (h : session.Reassigns config command after) :
    ∃ store, session.store.Alteration config store ∧ after = { session with store := store } := by
  obtain ⟨change, store, -, hstore, hafter⟩ := h
  exact ⟨store, hstore.alteration, hafter⟩

end Session

end CountedHandles
