import CountedHandles.Panic
import CountedHandles.Sorting

/-!
# Rosters

A roster lists the handles that hold one referent and how each came to hold it. It is a finite map
from serial numbers to provenances: only what is stored under a serial number matters, and the
listing is in order of serial number whatever the order in which the entries are kept.
-/

namespace CountedHandles

/-- How a handle came to hold its referent. -/
inductive Provenance where
  /-- The handle was created on the referent. -/
  | created
  /-- The handle was created as a copy of another. -/
  | copied (source : Serial)
  /-- The handle took over from another. -/
  | moved (source : Serial)
deriving DecidableEq

/-- The wording of a provenance. -/
def Provenance.text : Provenance → String
  | .created => "constructed"
  | .copied source => "copied from " ++ source.text
  | .moved source => "moved from " ++ source.text

/-- What a referent is told about the handles that hold it. -/
inductive Notice where
  /-- A new handle holds the referent. -/
  | register (serial : Serial)
  /-- A handle no longer holds the referent. -/
  | unregister (serial : Serial)
  /-- A new handle holds the referent as a copy of another. -/
  | copy (source destination : Serial)
  /-- A handle takes the place of another. -/
  | move (source destination : Serial)
deriving DecidableEq

/-- A finite map from handles to their provenances. -/
structure Roster where
  /-- The registered handles in no particular order. -/
  entries : List (Serial × Provenance)
  /-- No handle is listed twice. -/
  nodup_keys : (entries.map Prod.fst).Nodup
deriving DecidableEq

namespace Roster

/-- The roster without entries. -/
def empty : Roster := ⟨[], List.Pairwise.nil⟩

/-- The provenance of a registered handle. -/
def provenance? (roster : Roster) (serial : Serial) : Option Provenance :=
  (roster.entries.find? fun entry => entry.1 == serial).map Prod.snd

/-- Whether a handle is registered. -/
def contains (roster : Roster) (serial : Serial) : Bool :=
  (roster.provenance? serial).isSome

/-- How many handles are registered. -/
def size (roster : Roster) : Nat :=
  roster.entries.length

/-- Strikes a handle out, if it is registered. -/
def erase (roster : Roster) (serial : Serial) : Roster where
  entries := roster.entries.filter fun entry => entry.1 != serial
  nodup_keys := roster.nodup_keys.sublist (List.filter_sublist.map Prod.fst)

/-- Registers a handle; a handle that is registered already gets the new provenance. -/
def insert (roster : Roster) (serial : Serial) (provenance : Provenance) : Roster where
  entries := (serial, provenance) :: (roster.erase serial).entries
  nodup_keys := by
    refine List.nodup_cons.mpr ⟨?_, (roster.erase serial).nodup_keys⟩
    simp [erase]

/-- The roster as it stands once a notice has been followed without objection. -/
def after (roster : Roster) : Notice → Roster
  | .register serial => roster.insert serial .created
  | .unregister serial => roster.erase serial
  | .copy source destination => roster.insert destination (.copied source)
  | .move source destination => (roster.erase source).insert destination (.moved source)

/-- What is wrong with a notice: a new handle must not be registered yet, and a handle that leaves
must be registered. -/
def objection? (roster : Roster) : Notice → Option Panic
  | .register serial => if roster.contains serial then some (.registeredTwice serial) else none
  | .unregister serial => if roster.contains serial then none else some (.notRegistered serial)
  | .copy _ destination =>
    if roster.contains destination then some (.registeredTwice destination) else none
  | .move source _ => if roster.contains source then none else some (.notRegistered source)

/-- The roster as an objection leaves it: a move from an unknown handle registers nothing. -/
def afterObjection (roster : Roster) : Notice → Roster
  | .move _ _ => roster
  | notice => roster.after notice

/-- Follows a notice. Objections are raised only where misuse is asserted against. -/
def follow (roster : Roster) (assertions : Bool) (notice : Notice) :
    Roster × Option Panic :=
  match roster.objection? notice with
  | some panic =>
    if assertions then (roster.afterObjection notice, some panic)
    else (roster.after notice, none)
  | none => (roster.after notice, none)

/-- The registered handles in order of serial number. -/
def listing (roster : Roster) : List (Serial × Provenance) :=
  Sorting.sort (fun a b => a.1 ≤ b.1) roster.entries

@[simp] theorem provenance?_empty (serial : Serial) : empty.provenance? serial = none := rfl

/-- Striking a handle out leaves the other entries alone. -/
theorem provenance?_erase (roster : Roster) (serial other : Serial) :
    (roster.erase serial).provenance? other =
      if other = serial then none else roster.provenance? other := by
  simp only [provenance?, erase]
  induction roster.entries with
  | nil => simp
  | cons entry rest ih =>
    by_cases hentry : entry.1 = serial <;> by_cases hother : entry.1 = other <;> simp_all

/-- A registration is found under its handle and leaves the other entries alone. -/
theorem provenance?_insert (roster : Roster) (serial other : Serial) (provenance : Provenance) :
    (roster.insert serial provenance).provenance? other =
      if other = serial then some provenance else roster.provenance? other := by
  have herase := provenance?_erase roster serial other
  simp only [provenance?] at herase ⊢
  by_cases hother : other = serial
  · simp [insert, hother]
  · have hne : (serial == other) = false := by simp [Ne.symm hother]
    simp only [hother, if_false] at herase ⊢
    simp only [insert, List.find?_cons, hne, herase]

@[simp] theorem contains_empty (serial : Serial) : empty.contains serial = false := rfl

/-- Striking a handle out removes it and no other. -/
@[simp] theorem contains_erase (roster : Roster) (serial other : Serial) :
    (roster.erase serial).contains other = (other != serial && roster.contains other) := by
  by_cases h : other = serial <;> simp [contains, provenance?_erase, h]

/-- A registration adds one handle and removes none. -/
@[simp] theorem contains_insert (roster : Roster) (serial other : Serial)
    (provenance : Provenance) :
    (roster.insert serial provenance).contains other =
      (other == serial || roster.contains other) := by
  by_cases h : other = serial <;> simp [contains, provenance?_insert, h]

/-- The listing names exactly the entries. -/
theorem mem_listing {roster : Roster} {entry : Serial × Provenance} :
    entry ∈ roster.listing ↔ entry ∈ roster.entries :=
  (Sorting.sort_perm _ _).mem_iff

/-- The listing has one line for each registered handle. -/
@[simp] theorem length_listing (roster : Roster) :
    roster.listing.length = roster.size :=
  (Sorting.sort_perm _ _).length_eq

end Roster

end CountedHandles
