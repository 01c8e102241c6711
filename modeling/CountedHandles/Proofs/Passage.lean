import CountedHandles.Proofs.Destruction
import CountedHandles.Proofs.Renewal

/-!
# Which handles come and go

A passage is a course of acts together with the handles that go away and those that come into being
on it, while the referents and their links stay. The temporary handles of an operation do both and
so cancel out. Every operation on handles is shown here to be a short passage.
-/

namespace CountedHandles

/-- A list without repeated keys is, up to order, one member followed by all with other keys. -/
theorem perm_cons_filter_key [DecidableEq κ] {key : α → κ} {members : List α} {x : α}
    (hnodup : (members.map key).Nodup) (hmem : x ∈ members) :
    (x :: members.filter fun member => key member != key x).Perm members := by
  obtain ⟨before, after, rfl⟩ := List.append_of_mem hmem
  rw [List.map_append, List.map_cons, List.nodup_middle, List.nodup_cons, ← List.map_append]
    at hnodup
  have hkeep : (before ++ after).filter (fun member => key member != key x) = before ++ after :=
    List.filter_eq_self.mpr fun other hother => by
      have hne : key other ≠ key x := fun heq => hnodup.1 (heq ▸ List.mem_map_of_mem hother)
      simpa using hne
  rw [List.filter_append] at hkeep
  rw [List.filter_append, List.filter_cons_of_neg (by simp), hkeep]
  exact List.perm_middle.symm

namespace Store

variable {config : Config} {store before between after : Store} {handle first second : Handle}
  {a b s : Serial} {gone gone' new new' : List Serial} {form : Form} {slot : Slot}
  {provenance : Provenance} {name? : Option String} {messages : List Message}

/-- The names of the referents that exist, each with its links. -/
def owners (store : Store) : List (String × List Serial) :=
  store.referents.map fun referent => (referent.name, referent.links)

/-- The handles that referents own. -/
def linked (store : Store) : List Serial :=
  store.referents.flatMap Referent.links

/-- The links of the referent with a name, if there is one. -/
def linksOf (store : Store) (name : String) : List Serial :=
  (store.referent? name).elim [] Referent.links

theorem names_eq_owners : store.names = store.owners.map Prod.fst := by
  rw [names, owners, List.map_map]
  rfl

theorem linked_eq_owners : store.linked = store.owners.flatMap Prod.snd := by
  rw [linked, owners, List.flatMap_map]

theorem linksOf_eq_owners (store : Store) (name : String) :
    store.linksOf name = (store.owners.find? fun owner => owner.1 == name).elim [] Prod.snd := by
  have hkey : ((fun owner : String × List Serial => owner.1 == name) ∘ fun referent : Referent =>
      (referent.name, referent.links)) = fun referent => referent.name == name := rfl
  rw [linksOf, owners, List.find?_map, hkey, referent?]
  cases store.referents.find? fun referent => referent.name == name <;> rfl

@[simp] theorem owners_tell : (store.tell config name? messages).owners = store.owners := by
  rw [owners, referents_tell]
  apply map_key_map
  intro referent
  split <;> simp

/-- A course on which some handles go away and some come into being. -/
structure Passage (config : Config) (gone new : List Serial) (before after : Store) : Prop where
  /-- It is a course of acts. -/
  course : Course config before after
  /-- The handles afterwards are those before without the ones gone and with the new ones. -/
  serials_perm : (new ++ before.serials).Perm (gone ++ after.serials)
  /-- The referents and their links stay. -/
  owners_eq : after.owners = before.owners

namespace Passage

theorem names_eq (h : Passage config gone new before after) : after.names = before.names := by
  rw [names_eq_owners, h.owners_eq, names_eq_owners]

theorem linked_eq (h : Passage config gone new before after) : after.linked = before.linked := by
  rw [linked_eq_owners, h.owners_eq, linked_eq_owners]

theorem linksOf_eq (h : Passage config gone new before after) (name : String) :
    after.linksOf name = before.linksOf name := by
  rw [linksOf_eq_owners, h.owners_eq, linksOf_eq_owners]

/-- Nothing comes and goes on an empty course. -/
theorem refl : Passage config [] [] store store :=
  ⟨.refl, .refl _, rfl⟩

/-- What goes and comes on two courses goes and comes on both together. -/
theorem trans (h : Passage config gone new before between)
    (hnext : Passage config gone' new' between after) :
    Passage config (gone ++ gone') (new ++ new') before after where
  course := h.course.trans hnext.course
  serials_perm := by
    have hfirst := (h.serials_perm.append_left new').trans
      (List.perm_append_comm_assoc new' gone between.serials)
    have hsecond := hfirst.trans (hnext.serials_perm.append_left gone)
    rw [List.append_assoc, List.append_assoc]
    exact (List.perm_append_comm_assoc new new' before.serials).trans hsecond
  owners_eq := hnext.owners_eq.trans h.owners_eq

/-- A temporary handle that comes and goes is of no account. -/
theorem cancel (h : Passage config [s] [s] before after) : Passage config [] [] before after :=
  ⟨h.course, (List.perm_cons s).mp h.serials_perm, h.owners_eq⟩

/-- A record for the log touches no handle. -/
theorem record (entry : LogRecord) : Passage config [] [] store (store.addEvent (.log entry)) :=
  ⟨.single (.record entry), .refl _, rfl⟩

/-- A creation brings the handle with the next serial number. -/
theorem created (hsettled : (store.nextHandle form slot).Settled store)
    (hprovenance : provenance = .created ∨
      ∃ source ∈ store.handles, source.slot = slot ∧ provenance = .copied source.serial) :
    Passage config [] [store.nextSerial] store (store.created config form slot provenance) where
  course := .single (.create hsettled hprovenance)
  serials_perm := by
    have hserials : (store.created config form slot provenance).serials =
        store.serials ++ [store.nextSerial] := by simp [Store.created]
    rw [hserials]
    exact List.perm_append_comm
  owners_eq := by
    rw [Store.created, owners_tell]
    rfl

/-- An exchange touches no serial number. -/
theorem swapped (ha : store.handle? a = some first) (hb : store.handle? b = some second)
    (hform : first.form = second.form) (hscheme : first.scheme = second.scheme) :
    Passage config [] [] store (store.swapped config a b) where
  course := .single (.swap ha hb hform hscheme)
  serials_perm := by
    rw [serials, serials, handles_swapped, ← serials, ← serials, serials_exchangeSlots]
  owners_eq := by
    have howners : (store.exchangeSlots a b).owners = store.owners := by simp [owners]
    simp only [Store.swapped]
    split <;> simp [howners]

/-- A release takes the handle away. -/
theorem released (h : store.WellFormed) (hmem : s ∈ store.serials) :
    Passage config [s] [] store (store.released config s) where
  course := .single (.release s)
  serials_perm := by
    have hserials : (store.released config s).serials =
        store.serials.filter fun serial => serial != s := by simp [Store.released]
    rw [hserials]
    exact (@perm_cons_filter_key _ _ _ id store.serials s (by simpa using h.nodup_serials)
      hmem).symm
  owners_eq := by
    rw [Store.released, owners_tell]
    rfl

/-- Releases take all their handles away. -/
theorem releasedAll {serials : List Serial} (h : store.Consistent config) (hnodup : serials.Nodup)
    (hexist : ∀ serial ∈ serials, serial ∈ store.serials) :
    Passage config serials [] store (store.releasedAll config serials) := by
  induction serials generalizing store with
  | nil => exact refl
  | cons serial rest ih =>
    rw [List.nodup_cons] at hnodup
    have hfirst := @released config _ _ h.toWellFormed (hexist serial List.mem_cons_self)
    refine hfirst.trans (ih (h.released serial) hnodup.2 fun other hother => ?_)
    have hmem := hfirst.serials_perm.mem_iff.mp (hexist other (List.mem_cons_of_mem _ hother))
    rcases List.mem_cons.mp hmem with rfl | hmem
    · exact absurd hother hnodup.1
    · exact hmem

/-- A pointer that becomes a reference stays, and the reference comes. -/
theorem madeReference (hfound : store.handle? handle.serial = some handle)
    (hform : handle.form = .pointer) (hlive : handle.address ∈ store.sites) :
    Passage config [] [store.nextSerial] store (store.madeReference config handle) where
  course := .single (.makeReference hfound hform hlive)
  serials_perm := by
    have hserials : (store.madeReference config handle).serials =
        store.serials ++ [store.nextSerial] := by
      simp only [Store.madeReference, Store.created, serials_tell, serials_addHandle]
      rw [← @serials_setSlot store handle.serial (Slot.null handle.scheme)]
      rfl
    rw [hserials]
    exact List.perm_append_comm
  owners_eq := by
    rw [Store.madeReference, Store.created, owners_tell]
    rfl

/-- A reference that becomes a pointer goes, and the pointer comes. -/
theorem madePointer (h : store.WellFormed) (hfound : store.handle? handle.serial = some handle)
    (hform : handle.form = .reference) :
    Passage config [handle.serial] [store.nextSerial] store (store.madePointer config handle) where
  course := .single (.makePointer hfound hform)
  serials_perm := by
    have hmem := mem_serials_of_handle? hfound
    have hgone : (handle.serial ::
        store.serials.filter fun serial => serial != handle.serial).Perm store.serials :=
      @perm_cons_filter_key _ _ _ id store.serials _ (by simpa using h.nodup_serials) hmem
    have hserials : (store.madePointer config handle).serials =
        (store.serials.filter fun serial => serial != handle.serial) ++ [store.nextSerial] := by
      simp only [Store.madePointer, Store.created, serials_tell, serials_addHandle]
      rw [← serials_removeHandle]
      rfl
    rw [hserials]
    exact List.perm_append_comm.trans (hgone.symm.append_right _)
  owners_eq := by
    rw [Store.madePointer, Store.created, owners_tell]
    rfl

/-- A reassignment takes the temporary handle away. -/
theorem reassigned (h : store.Consistent config) (ha : store.handle? a = some first)
    (hb : store.handle? b = some second) (hform : first.form = second.form)
    (hscheme : first.scheme = second.scheme) :
    Passage config [b] [] store (store.reassigned config a b) := by
  have hswapped := (h.swapped ha hb hform).toWellFormed
  have hfound := (@handle?_swapped config _ _ _ _ _ h.nodup_serials ha hb).2
  exact (swapped ha hb hform hscheme).trans (released hswapped (mem_serials_of_handle? hfound))

/-- A renewal leaves all serial numbers as they were. -/
theorem renewed (h : store.Consistent config) (hfound : store.handle? s = some handle)
    (hscheme : slot.scheme = handle.scheme)
    (hsettled : (store.nextHandle handle.form slot).Settled store)
    (hprovenance : provenance = .created ∨
      ∃ source ∈ store.handles, source.slot = slot ∧ provenance = .copied source.serial) :
    Passage config [] [] store (store.renewed config s handle.form slot provenance) := by
  have hcreated : Passage config [] [store.nextSerial] store
      (store.created config handle.form slot provenance) := created hsettled hprovenance
  exact cancel (hcreated.trans (reassigned (h.course hcreated.course) (handle?_created hfound)
    (handle?_created_nextSerial h.toWellFormed) rfl hscheme.symm))

/-- A value is moved out to a new pointer. -/
theorem movedOut (h : store.WellFormed) (hfound : store.handle? s = some handle)
    (hform : handle.form = .pointer) :
    Passage config [] [store.nextSerial] store (store.movedOut config handle.scheme s) := by
  have hcreated : Passage config [] [store.nextSerial] store
      (store.created config .pointer (Slot.null handle.scheme) .created) :=
    created (settled_null _) (Or.inl rfl)
  exact hcreated.trans (swapped (handle?_created_nextSerial h) (handle?_created hfound) hform.symm
    (Slot.scheme_null _))

/-- A value that is moved from one pointer to another leaves all serial numbers as they were. -/
theorem movedTo (h : store.Consistent config) (ha : store.handle? a = some first)
    (hb : store.handle? b = some second) (hform : first.form = .pointer)
    (hsecondForm : second.form = .pointer) (hscheme : first.scheme = second.scheme) (hne : a ≠ b) :
    Passage config [] [] store
      ((store.movedOut config second.scheme b).reassigned config a store.nextSerial) := by
  have hmoved := @movedOut config _ _ _ h.toWellFormed hb hsecondForm
  exact cancel (hmoved.trans (reassigned (h.course hmoved.course)
    (handle?_movedOut_of_ne h hb ha hne) (handle?_movedOut_nextSerial h hb) hform hscheme))

/-- A bucket that is deleted leaves all serial numbers as they were. -/
theorem vacated (h : store.Consistent config)
    (hfound : store.handle? handle.serial = some handle) (hform : handle.form = .pointer) :
    Passage config [] [] store (store.vacated config handle) := by
  have hrecord : Passage config [] [] store
      (store.addEvent (.log (.reclaiming handle.address))) := record _
  have hrecorded := h.course hrecord.course
  have hmoved := @movedOut config _ _ _ hrecorded.toWellFormed hfound hform
  have hdoomed := handle?_movedOut_nextSerial hrecorded hfound
  have hreleased := @released config _ _ (hrecorded.course hmoved.course).toWellFormed
    (mem_serials_of_handle? hdoomed)
  have hemptied := hrecord.trans (cancel (hmoved.trans hreleased))
  have hrenewed := @renewed config _ { handle with slot := Slot.null handle.scheme } handle.serial
    (Slot.deleted handle.scheme) .created (h.course hemptied.course)
    (handle?_emptied hrecorded hfound) ((Slot.scheme_deleted _).trans (Slot.scheme_null _).symm)
    (Or.inl ⟨hform, Slot.target?_deleted _⟩) (Or.inl rfl)
  exact hemptied.trans hrenewed

end Passage

/-! ## Alterations -/

/-- What an operation that gives existing handles other values makes of a store. -/
inductive Alteration (config : Config) (store : Store) : Store → Prop
  /-- A handle gets a new value. -/
  | renew {serial : Serial} {handle : Handle} {slot : Slot} {provenance : Provenance}
      (found : store.handle? serial = some handle) (scheme_eq : slot.scheme = handle.scheme)
      (settled : (store.nextHandle handle.form slot).Settled store)
      (provenance_eq : provenance = .created ∨
        ∃ source ∈ store.handles, source.slot = slot ∧ provenance = .copied source.serial) :
      Alteration config store (store.renewed config serial handle.form slot provenance)
  /-- The value of a pointer is moved to another one. -/
  | move {a b : Serial} {first second : Handle} (found_first : store.handle? a = some first)
      (found_second : store.handle? b = some second) (first_form : first.form = .pointer)
      (second_form : second.form = .pointer) (scheme_eq : first.scheme = second.scheme)
      (ne : a ≠ b) :
      Alteration config store
        ((store.movedOut config second.scheme b).reassigned config a store.nextSerial)
  /-- Two handles exchange their values. -/
  | swap {a b : Serial} {first second : Handle} (found_first : store.handle? a = some first)
      (found_second : store.handle? b = some second) (form_eq : first.form = second.form)
      (scheme_eq : first.scheme = second.scheme) :
      Alteration config store (store.swapped config a b)
  /-- A bucket is deleted by taking its value out. -/
  | vacate {handle : Handle} (found : store.handle? handle.serial = some handle)
      (form_eq : handle.form = .pointer) : Alteration config store (store.vacated config handle)

/-- No handle comes or goes on an alteration. -/
theorem Alteration.passage (h : Alteration config store after) (hc : store.Consistent config) :
    Passage config [] [] store after := by
  cases h with
  | renew found scheme_eq settled provenance_eq =>
    exact .renewed hc found scheme_eq settled provenance_eq
  | move found_first found_second first_form second_form scheme_eq ne =>
    exact .movedTo hc found_first found_second first_form second_form scheme_eq ne
  | swap found_first found_second form_eq scheme_eq =>
    exact .swapped found_first found_second form_eq scheme_eq
  | vacate found form_eq => exact .vacated hc found form_eq

end Store

end CountedHandles
