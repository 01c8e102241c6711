import CountedHandles.Proofs.Course
import CountedHandles.Proofs.Performing

/-!
# Renewed handles

A handle gets another value by exchanging contents with a temporary handle, which then goes away
with the old value. All operations that change handles are of this kind. Each returns the store that
a short course of acts leads to.
-/

namespace CountedHandles

open Operation

variable {config : Config} {store : Store} {handle first second source : Handle} {a b s : Serial}
  {form : Form} {slot : Slot} {provenance : Provenance}

namespace Store

/-! ## Where handles are found -/

/-- A handle that exists is found when another one has been created. -/
theorem handle?_created (h : store.handle? s = some handle) :
    (store.created config form slot provenance).handle? s = some handle := by
  rw [created, handle?_tell, handle?_addHandle_of_some h]

/-- A handle that has been created is found. -/
theorem handle?_created_nextSerial (h : store.WellFormed) :
    (store.created config form slot provenance).handle? store.nextSerial =
      some (store.nextHandle form slot) := by
  rw [created, handle?_tell, handle?_addHandle_nextSerial h.nextSerial_notMem]

@[simp] theorem nextSerial_created :
    (store.created config form slot provenance).nextSerial = store.nextSerial + 1 := by
  simp [created]

/-- An exchange changes the handles as an exchange of their contents does. -/
@[simp] theorem handles_swapped :
    (store.swapped config a b).handles = (store.exchangeSlots a b).handles := by
  simp only [swapped]
  split <;> simp

/-- Two handles that have exchanged what they hold are found with each other's content. -/
theorem handle?_swapped (hnodup : store.serials.Nodup) (ha : store.handle? a = some first)
    (hb : store.handle? b = some second) :
    (store.swapped config a b).handle? a = some { first with slot := second.slot } ∧
      (store.swapped config a b).handle? b = some { second with slot := first.slot } := by
  simpa only [handle?, handles_swapped] using handle?_exchangeSlots hnodup ha hb

/-- A handle is found when another one has been released. -/
theorem handle?_released (hne : s ≠ a) :
    (store.released config a).handle? s = store.handle? s := by
  rw [released, handle?_tell, handle?_removeHandle hne]

/-! ## What a handle is given -/

/-- A store in which a handle has exchanged contents with a temporary one, which is gone. -/
def reassigned (config : Config) (store : Store) (serial replacement : Serial) : Store :=
  (store.swapped config serial replacement).released config replacement

/-- A store in which a handle has been given a new content through a temporary handle. -/
def renewed (config : Config) (store : Store) (serial : Serial) (form : Form) (slot : Slot)
    (provenance : Provenance) : Store :=
  (store.created config form slot provenance).reassigned config serial store.nextSerial

/-- A store in which a pointer has given its value to a new one. -/
def movedOut (config : Config) (store : Store) (scheme : Scheme) (source : Serial) : Store :=
  (store.created config .pointer (Slot.null scheme) .created).swapped config store.nextSerial source

/-- A store in which a bucket has been deleted by taking its value out. -/
def vacated (config : Config) (store : Store) (bucket : Handle) : Store :=
  (((store.addEvent (.log (.reclaiming bucket.address))).movedOut config bucket.scheme
    bucket.serial).released config store.nextSerial).renewed config bucket.serial bucket.form
    (Slot.deleted bucket.scheme) .created

/-- A new pointer to nothing is settled. -/
theorem settled_null (scheme : Scheme) :
    (store.nextHandle .pointer (Slot.null scheme)).Settled store :=
  Or.inl ⟨rfl, Slot.target?_null scheme⟩

/-- A new mark of a deleted bucket is settled. -/
theorem settled_deleted (scheme : Scheme) :
    (store.nextHandle .pointer (Slot.deleted scheme)).Settled store :=
  Or.inl ⟨rfl, Slot.target?_deleted scheme⟩

/-- A copy of a handle that exists is settled, also if it is made a pointer. -/
theorem WellFormed.settled_copy (h : store.WellFormed) (hfound : store.handle? s = some handle)
    (hform : form = handle.form ∨ form = .pointer) :
    (store.nextHandle form handle.slot).Settled store := by
  rcases h.settled handle (mem_of_handle? hfound) with ⟨hpointer, hvacant⟩ | hlive
  · exact Or.inl ⟨hform.elim (fun heq => heq.trans hpointer) id, hvacant⟩
  · exact Or.inr hlive

/-- A value is moved out by an exchange with a new pointer to nothing. -/
theorem Course.movedOut (h : store.WellFormed) (hfound : store.handle? s = some handle)
    (hform : handle.form = .pointer) :
    Course config store (store.movedOut config handle.scheme s) := by
  have hcreate : Act config store
      (store.created config .pointer (Slot.null handle.scheme) .created) :=
    .create (settled_null _) (Or.inl rfl)
  exact .tail (.single hcreate) (.swap (handle?_created_nextSerial h) (handle?_created hfound)
    hform.symm (Slot.scheme_null _))

/-- A pointer to nothing can be created on any consistent store. -/
theorem Consistent.created_null (h : store.Consistent config) (scheme : Scheme) :
    (store.created config .pointer (Slot.null scheme) .created).Consistent config :=
  h.created (settled_null scheme) (by simp)

/-- A pointer whose value has been moved out is found empty. -/
theorem handle?_movedOut (h : store.Consistent config) (hfound : store.handle? s = some handle) :
    (store.movedOut config handle.scheme s).handle? s =
      some { handle with slot := Slot.null handle.scheme } :=
  (handle?_swapped (h.created_null _).nodup_serials (handle?_created_nextSerial h.toWellFormed)
    (handle?_created hfound)).2

/-- The pointer to which a value has been moved is found with it. -/
theorem handle?_movedOut_nextSerial (h : store.Consistent config)
    (hfound : store.handle? s = some handle) :
    (store.movedOut config handle.scheme s).handle? store.nextSerial =
      some (store.nextHandle .pointer handle.slot) :=
  (handle?_swapped (h.created_null _).nodup_serials (handle?_created_nextSerial h.toWellFormed)
    (handle?_created hfound)).1

/-- Moving a value out leaves every other handle as it was. -/
theorem handle?_movedOut_of_ne (h : store.Consistent config)
    (hfound : store.handle? s = some source)
    (hother : store.handle? a = some handle) (hne : a ≠ s) :
    (store.movedOut config source.scheme s).handle? a = some handle := by
  rw [movedOut, handle?, handles_swapped]
  exact handle?_exchangeSlots_of_ne (h.created_null _).nodup_serials
    (handle?_created_nextSerial h.toWellFormed) (handle?_created hfound) (handle?_created hother)
    (h.ne_nextSerial hother) hne

/-- A bucket whose value has been taken out and released is found empty. -/
theorem handle?_emptied (h : store.Consistent config) (hfound : store.handle? s = some handle) :
    ((store.movedOut config handle.scheme s).released config store.nextSerial).handle? s =
      some { handle with slot := Slot.null handle.scheme } := by
  rw [handle?_released (h.ne_nextSerial hfound), handle?_movedOut h hfound]

end Store

namespace Handle

open Store

/-- A handle is given the value of a temporary one successfully. -/
theorem run_reassign (h : store.Consistent config) (ha : store.handle? a = some first)
    (hb : store.handle? b = some second) (hform : first.form = second.form) :
    reassign config a b store = .ok () (store.reassigned config a b) := by
  unfold reassign
  simp only [run_bind, withTemporary, run_recovering_of_ok (run_swap h ha hb)]
  exact run_release (h.swapped ha hb hform) b

/-- A handle is renewed successfully once the temporary handle has been created. -/
theorem run_renew {creation : Operation Serial} (h : store.Consistent config)
    (hfound : store.handle? s = some handle)
    (hsettled : (store.nextHandle handle.form slot).Settled store)
    (hprovenance : ∀ source, provenance ≠ .moved source)
    (hcreation : creation store =
      .ok store.nextSerial (store.created config handle.form slot provenance)) :
    (do reassign config s (← creation) : Operation Unit) store =
      .ok () (store.renewed config s handle.form slot provenance) := by
  simp only [run_bind, hcreation]
  exact run_reassign (h.created hsettled hprovenance) (handle?_created hfound)
    (handle?_created_nextSerial h.toWellFormed) rfl

/-- A value is moved out of a pointer successfully. -/
theorem run_moveOut (h : store.Consistent config)
    (hfound : store.handle? handle.serial = some handle) :
    moveOut config handle store =
      .ok store.nextSerial (store.movedOut config handle.scheme handle.serial) := by
  have hswap := run_swap (h.created_null handle.scheme)
    (handle?_created_nextSerial h.toWellFormed) (handle?_created hfound)
  unfold moveOut
  simp only [run_bind, @run_null config, withTemporary, run_recovering_of_ok hswap,
    run_pure]
  rfl

/-- A handle is made to hold an address that fits. -/
theorem run_pointAt {address : Address} (h : store.Consistent config)
    (hfound : store.handle? handle.serial = some handle)
    (hslot : Slot.ofAddress handle.scheme address = .ok slot)
    (hsettled : (store.nextHandle handle.form slot).Settled store) :
    pointAt config handle address store =
      .ok () (store.renewed config handle.serial handle.form slot .created) :=
  run_renew h hfound hsettled (by simp) (run_ofAddress h hslot)

/-- An address that does not fit is refused before a handle changes. -/
theorem run_pointAt_of_error {address : Address} {cause : Panic}
    (hslot : Slot.ofAddress handle.scheme address = .error cause) :
    pointAt config handle address store = .error (.panic cause) store := by
  unfold pointAt
  simp only [run_bind, run_ofAddress_of_error hslot]

/-- A pointer is made to hold null successfully. -/
theorem run_clear (h : store.Consistent config)
    (hfound : store.handle? handle.serial = some handle) (hform : handle.form = .pointer) :
    clear config handle store = .ok () (store.renewed config handle.serial handle.form
      (Slot.null handle.scheme) .created) :=
  run_renew h hfound (hform ▸ settled_null _) (by simp) (hform ▸ run_null)

/-- A pointer is made the mark of a deleted bucket successfully. -/
theorem run_markDeleted (h : store.Consistent config)
    (hfound : store.handle? handle.serial = some handle) (hform : handle.form = .pointer) :
    markDeleted config handle store = .ok () (store.renewed config handle.serial handle.form
      (Slot.deleted handle.scheme) .created) :=
  run_renew h hfound (hform ▸ settled_deleted _) (by simp) (hform ▸ run_deleted)

/-- A handle is made to hold what another one of its form holds. -/
theorem run_assignCopy (h : store.Consistent config)
    (hfound : store.handle? handle.serial = some handle)
    (hsource : store.handle? source.serial = some source) (hform : source.form = handle.form) :
    assignCopy config handle source store =
      .ok () (store.renewed config handle.serial handle.form source.slot
        (.copied source.serial)) :=
  run_renew h hfound (h.settled_copy hsource (Or.inl hform.symm)) (by simp)
    (hform ▸ run_copyAs h)

/-- The value of one pointer is moved to another one successfully. -/
theorem run_assignMove (h : store.Consistent config)
    (hfound : store.handle? handle.serial = some handle)
    (hsource : store.handle? source.serial = some source) (hform : handle.form = .pointer)
    (hsourceForm : source.form = .pointer) (hne : handle.serial ≠ source.serial) :
    assignMove config handle source store =
      .ok () ((store.movedOut config source.scheme source.serial).reassigned config handle.serial
        store.nextSerial) := by
  have hmoved := h.course (Course.movedOut h.toWellFormed hsource hsourceForm)
  unfold assignMove
  simp only [run_bind, run_moveOut h hsource]
  exact run_reassign hmoved (handle?_movedOut_of_ne h hsource hfound hne)
    (handle?_movedOut_nextSerial h hsource) hform

/-- A bucket that is deleted already is not deleted again. -/
theorem run_requireNotDeleted (handle : Handle) (store : Store) :
    requireNotDeleted handle store =
      if handle.slot.isDeleted then .error (.panic .bucketDeleted) store else .ok () store := by
  unfold requireNotDeleted
  split <;> rfl

/-- A bucket that is deleted already is refused before it changes. -/
theorem run_vacateBucket_of_deleted (hdeleted : handle.slot.isDeleted = true) :
    vacateBucket config handle store = .error (.panic .bucketDeleted) store := by
  unfold vacateBucket
  simp only [run_bind, run_requireNotDeleted, hdeleted, if_true]

/-- A bucket that is not deleted yet is deleted successfully. -/
theorem run_vacateBucket (h : store.Consistent config)
    (hfound : store.handle? handle.serial = some handle) (hform : handle.form = .pointer)
    (hdeleted : handle.slot.isDeleted = false) :
    vacateBucket config handle store = .ok () (store.vacated config handle) := by
  have hrecorded := (Act.record (.reclaiming handle.address)).consistent h
  have hmoved := hrecorded.course (Course.movedOut hrecorded.toWellFormed hfound hform)
  have hemptied := hmoved.released store.nextSerial
  have hmark := @run_renew config _ { handle with slot := Slot.null handle.scheme } handle.serial
    (Slot.deleted handle.scheme) .created (deleted handle.scheme) hemptied
    (handle?_emptied hrecorded hfound) (hform ▸ settled_deleted _) (by simp) (hform ▸ run_deleted)
  unfold vacateBucket
  simp only [run_bind, run_requireNotDeleted, hdeleted, Bool.false_eq_true, if_false, run_recordLog,
    run_moveOut hrecorded hfound, run_release hmoved]
  exact hmark

end Handle

end CountedHandles
