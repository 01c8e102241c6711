import CountedHandles.Proofs.Commands
import CountedHandles.Proofs.Viewing

/-!
# Mirrored operations and turns

An operation is mirrored by another one if what is seen of its outcome is the outcome of the other
on what was seen before. On consistent stores every operation is mirrored by itself in the
configuration that has to do with the view. Turns are mirrored piece by piece.
-/

namespace CountedHandles

namespace View

/-- What is seen of a fault. -/
def fault (view : View) : Fault → Fault
  | .panic cause => .panic cause
  | .violation violation => .violation (view.violation violation)
  | .collapse => .collapse

/-- What is seen of what cuts a turn short. -/
def stop (view : View) : Stop → Stop
  | .refused refusal => .refused refusal
  | .fault fault => .fault (view.fault fault)

/-- What is seen of a session. -/
def session (view : View) (session : Session) : Session :=
  { session with store := view.store session.store }

end View

/-- What is seen of the outcome of an operation is the outcome of another one on what is seen. -/
def Operation.Mirrors (view : View) (operation mirror : Operation α) (store : Store) : Prop :=
  mirror (view.store store) =
    match operation store with
    | .ok result after => .ok result (view.store after)
    | .error fault after => .error (view.fault fault) (view.store after)

/-- What is seen of the outcome of a turn is the outcome of another one on what is seen. -/
def Turn.Mirrors (view : View) (turn mirror : Turn α) (session : Session) : Prop :=
  mirror (view.session session) =
    match turn session with
    | .ok result after => .ok result (view.session after)
    | .error stop after => .error (view.stop stop) (view.session after)

namespace Operation

variable {view : View} {operation mirror : Operation α} {store after : Store} {result : α}
  {cause : Panic}

/-- An operation that succeeds is mirrored by one that succeeds in the same way. -/
theorem mirrors_of_ok (hrun : operation store = .ok result after)
    (hmirror : mirror (view.store store) = .ok result (view.store after)) :
    Mirrors view operation mirror store := by
  unfold Mirrors
  rw [hrun, hmirror]

/-- An operation that panics is mirrored by one that panics in the same way. -/
theorem mirrors_of_panic (hrun : operation store = .error (.panic cause) after)
    (hmirror : mirror (view.store store) = .error (.panic cause) (view.store after)) :
    Mirrors view operation mirror store := by
  unfold Mirrors
  rw [hrun, hmirror]
  rfl

end Operation

namespace Handle

open Operation

variable {view : View} {config : Config} {store : Store} {handle first second source : Handle}
  {a b s : Serial} {form : Form} {slot : Slot} {scheme : Scheme} {address : Address}

theorem mirrors_null : Mirrors view (null scheme) (null scheme) store := by
  apply mirrors_of_ok (run_addHandle _ _ _)
  rw [View.store_addHandle]
  rfl

theorem mirrors_deleted : Mirrors view (deleted scheme) (deleted scheme) store := by
  apply mirrors_of_ok (run_addHandle _ _ _)
  rw [View.store_addHandle]
  rfl

theorem mirrors_ofAddress (h : store.Consistent config) :
    Mirrors view (ofAddress config form scheme address)
      (ofAddress (view.config config) form scheme address) store := by
  cases hslot : Slot.ofAddress scheme address with
  | ok slot =>
    apply mirrors_of_ok (run_ofAddress h hslot)
    rw [View.store_created]
    exact run_ofAddress (View.consistent_store h) hslot
  | error cause =>
    exact mirrors_of_panic (run_ofAddress_of_error hslot) (run_ofAddress_of_error hslot)

theorem mirrors_copyAs (h : store.Consistent config) :
    Mirrors view (copyAs config form source) (copyAs (view.config config) form source) store := by
  apply mirrors_of_ok (run_copyAs h)
  rw [View.store_created]
  exact run_copyAs (View.consistent_store h)

theorem mirrors_release (h : store.Consistent config) :
    Mirrors view (release config s) (release (view.config config) s) store := by
  apply mirrors_of_ok (run_release h s)
  rw [View.store_released]
  exact run_release (View.consistent_store h) s

theorem mirrors_swap (h : store.Consistent config) (ha : store.handle? a = some first)
    (hb : store.handle? b = some second) :
    Mirrors view (swap config a b) (swap (view.config config) a b) store := by
  apply mirrors_of_ok (run_swap h ha hb)
  rw [View.store_swapped]
  exact run_swap (View.consistent_store h) ha hb

theorem mirrors_moveOut (h : store.Consistent config)
    (hfound : store.handle? handle.serial = some handle) :
    Mirrors view (moveOut config handle) (moveOut (view.config config) handle) store := by
  apply mirrors_of_ok (run_moveOut h hfound)
  rw [View.store_movedOut]
  exact run_moveOut (View.consistent_store h) hfound

theorem mirrors_toReference (h : store.Consistent config)
    (hfound : store.handle? handle.serial = some handle) (hform : handle.form = .pointer) :
    Mirrors view (toReference config handle) (toReference (view.config config) handle) store := by
  by_cases hlive : handle.address ∈ store.sites
  · apply mirrors_of_ok (run_toReference h hfound hform hlive)
    rw [View.store_madeReference]
    exact run_toReference (View.consistent_store h) hfound hform (by simpa using hlive)
  · apply mirrors_of_panic (run_toReference_of_vacant h hfound hlive)
    exact run_toReference_of_vacant (View.consistent_store h) hfound (by simpa using hlive)

theorem mirrors_toPointer (h : store.Consistent config)
    (hfound : store.handle? handle.serial = some handle) :
    Mirrors view (toPointer config handle) (toPointer (view.config config) handle) store := by
  apply mirrors_of_ok (run_toPointer h hfound)
  rw [View.store_madePointer]
  exact run_toPointer (View.consistent_store h) hfound

theorem mirrors_pointAt (h : store.Consistent config)
    (hfound : store.handle? handle.serial = some handle)
    (hsettled : ∀ slot, Slot.ofAddress handle.scheme address = .ok slot →
      (store.nextHandle handle.form slot).Settled store) :
    Mirrors view (pointAt config handle address) (pointAt (view.config config) handle address)
      store := by
  cases hslot : Slot.ofAddress handle.scheme address with
  | ok slot =>
    have hseen : ((view.store store).nextHandle handle.form slot).Settled (view.store store) :=
      View.settled_store.mpr (hsettled slot hslot)
    apply mirrors_of_ok (run_pointAt h hfound hslot (hsettled slot hslot))
    rw [View.store_renewed]
    exact run_pointAt (View.consistent_store h) hfound hslot hseen
  | error cause =>
    exact mirrors_of_panic (run_pointAt_of_error hslot) (run_pointAt_of_error hslot)

theorem mirrors_clear (h : store.Consistent config)
    (hfound : store.handle? handle.serial = some handle) (hform : handle.form = .pointer) :
    Mirrors view (clear config handle) (clear (view.config config) handle) store := by
  apply mirrors_of_ok (run_clear h hfound hform)
  rw [View.store_renewed]
  exact run_clear (View.consistent_store h) hfound hform

theorem mirrors_markDeleted (h : store.Consistent config)
    (hfound : store.handle? handle.serial = some handle) (hform : handle.form = .pointer) :
    Mirrors view (markDeleted config handle) (markDeleted (view.config config) handle) store := by
  apply mirrors_of_ok (run_markDeleted h hfound hform)
  rw [View.store_renewed]
  exact run_markDeleted (View.consistent_store h) hfound hform

theorem mirrors_assignCopy (h : store.Consistent config)
    (hfound : store.handle? handle.serial = some handle)
    (hsource : store.handle? source.serial = some source) (hform : source.form = handle.form) :
    Mirrors view (assignCopy config handle source) (assignCopy (view.config config) handle source)
      store := by
  apply mirrors_of_ok (run_assignCopy h hfound hsource hform)
  rw [View.store_renewed]
  exact run_assignCopy (View.consistent_store h) hfound hsource hform

theorem mirrors_assignMove (h : store.Consistent config)
    (hfound : store.handle? handle.serial = some handle)
    (hsource : store.handle? source.serial = some source) (hform : handle.form = .pointer)
    (hsourceForm : source.form = .pointer) (hne : handle.serial ≠ source.serial) :
    Mirrors view (assignMove config handle source) (assignMove (view.config config) handle source)
      store := by
  apply mirrors_of_ok (run_assignMove h hfound hsource hform hsourceForm hne)
  rw [View.store_reassigned, View.store_movedOut]
  exact run_assignMove (View.consistent_store h) hfound hsource hform hsourceForm hne

theorem mirrors_requireNotDeleted :
    Mirrors view (requireNotDeleted handle) (requireNotDeleted handle) store := by
  unfold Mirrors
  rw [run_requireNotDeleted, run_requireNotDeleted]
  split <;> rfl

theorem mirrors_vacateBucket (h : store.Consistent config)
    (hfound : store.handle? handle.serial = some handle) (hform : handle.form = .pointer) :
    Mirrors view (vacateBucket config handle) (vacateBucket (view.config config) handle) store := by
  cases hdeleted : handle.slot.isDeleted with
  | false =>
    apply mirrors_of_ok (run_vacateBucket h hfound hform hdeleted)
    rw [View.store_vacated]
    exact run_vacateBucket (View.consistent_store h) hfound hform hdeleted
  | true =>
    exact mirrors_of_panic (run_vacateBucket_of_deleted hdeleted)
      (run_vacateBucket_of_deleted hdeleted)

end Handle

namespace Referent

open Operation

variable {view : View} {config : Config} {store : Store} {referent : Referent}

theorem mirrors_destroy (h : store.Consistent config) :
    Mirrors view (destroy config referent) (destroy (view.config config) (view.referent referent))
      store := by
  unfold Mirrors
  rw [run_destroy h, run_destroy (View.consistent_store h), View.name_referent,
    ← View.store_checkpoint, View.violationOf?_store]
  cases (store.checkpoint config referent).violationOf? referent.name with
  | none => simp only [Option.map_none, View.store_destroyed]
  | some violation => rfl

end Referent

namespace Turn

open Session

variable {view : View} {config : Config} {session : Session} {turn mirror : Turn α} {name : String}
  {s : Serial} {next next' : α → Turn β}

/-- A sequence is mirrored if its parts are. -/
theorem mirrors_bind (h : Mirrors view turn mirror session)
    (hnext : turn.Ends session (fun result after => Mirrors view (next result) (next' result) after)
      fun _ _ => True) : Mirrors view (turn >>= next) (mirror >>= next') session := by
  unfold Mirrors at h ⊢
  unfold Ends at hnext
  rw [run_bind, run_bind, h]
  cases hturn : turn session with
  | ok result after =>
    rw [hturn] at hnext
    exact hnext
  | error stop after => rfl

theorem mirrors_pure {result : α} : Mirrors view (pure result) (pure result) session := rfl

/-- A turn with an answer of its own is mirrored if what it does is mirrored. -/
theorem mirrors_bind_pure {answer : β} (h : Mirrors view turn mirror session) :
    Mirrors view (turn >>= fun _ => pure answer) (mirror >>= fun _ => pure answer) session :=
  mirrors_bind h (ends_of_forall (fun _ _ => mirrors_pure) fun _ _ => trivial)

theorem mirrors_modify {change change' : Session → Session}
    (h : change' (view.session session) = view.session (change session)) :
    Mirrors view (modify change : Turn Unit) (modify change') session := by
  unfold Mirrors
  change EStateM.Result.ok () (change' (view.session session)) = _
  rw [h]
  rfl

theorem mirrors_set {after after' : Session} (h : after' = view.session after) :
    Mirrors view (set after : Turn Unit) (set after') session := by
  rw [h]
  rfl

theorem mirrors_refuse {refusal : Refusal} :
    Mirrors view (refuse refusal : Turn α) (refuse refusal) session := rfl

theorem mirrors_require {condition : Bool} {refusal : Refusal} :
    Mirrors view (require condition refusal) (require condition refusal) session := by
  cases condition <;> rfl

/-- A turn that performs a mirrored operation is mirrored. -/
theorem mirrors_perform {operation operation' : Operation α}
    (h : Operation.Mirrors view operation operation' session.store) :
    Mirrors view (perform operation) (perform operation') session := by
  unfold Operation.Mirrors at h
  unfold Mirrors perform View.session
  simp only [h]
  cases operation session.store <;> rfl

/-- A sequence that starts with a look at the session is mirrored. -/
theorem mirrors_bind_get {next next' : Session → Turn β}
    (h : Mirrors view (next session) (next' (view.session session)) session) :
    Mirrors view (get >>= next) (get >>= next') session := h

/-- A sequence that starts with the look-up of a referent is mirrored. -/
theorem mirrors_bind_referent {next next' : Referent → Turn β}
    (h : ∀ referent, session.store.referent? name = some referent →
      Mirrors view (next referent) (next' (view.referent referent)) session) :
    Mirrors view (referent name >>= next) (referent name >>= next') session := by
  unfold Mirrors
  cases hfound : session.store.referent? name with
  | none =>
    have hseen : (view.session session).store.referent? name = none := by
      simp [View.session, hfound]
    simp only [run_bind, run_referent_of_none hfound, run_referent_of_none hseen]
    rfl
  | some referent =>
    have hseen : (view.session session).store.referent? name = some (view.referent referent) := by
      simp [View.session, hfound]
    simp only [run_bind, run_referent hfound, run_referent hseen]
    exact h referent hfound

theorem mirrors_handle : Mirrors view (handle name) (handle name) session := by
  apply mirrors_bind_get
  have hseen : (view.session session).handle? name = session.handle? name := rfl
  rw [hseen]
  cases session.handle? name <;> rfl

/-- A sequence that starts with the look-up of a handle is mirrored. -/
theorem mirrors_bind_handle {next next' : Handle → Turn β}
    (h : ∀ handle, session.serial? name = some handle.serial →
      session.store.handle? handle.serial = some handle →
      Mirrors view (next handle) (next' handle) session) :
    Mirrors view (handle name >>= next) (handle name >>= next') session :=
  mirrors_bind mirrors_handle (ends_handle h fun _ => trivial)

/-- A sequence that starts with a requirement is mirrored. -/
theorem mirrors_bind_require {condition : Bool} {refusal : Refusal} {next next' : Unit → Turn β}
    (h : condition = true → Mirrors view (next ()) (next' ()) session) :
    Mirrors view (require condition refusal >>= next) (require condition refusal >>= next')
      session :=
  mirrors_bind mirrors_require (ends_require h fun _ => trivial)

/-- A sequence that starts with a change is mirrored. -/
theorem mirrors_bind_modify {change change' : Session → Session} {next next' : Unit → Turn β}
    (hchange : change' (view.session session) = view.session (change session))
    (h : Mirrors view (next ()) (next' ()) (change session)) :
    Mirrors view (modify change >>= next) (modify change' >>= next') session :=
  mirrors_bind (mirrors_modify hchange) (ends_modify h)

/-- A sequence that starts with the look-up of a pointer is mirrored. -/
theorem mirrors_bind_pointer {next next' : Handle → Turn β}
    (h : ∀ handle, session.serial? name = some handle.serial →
      session.store.handle? handle.serial = some handle → handle.form = .pointer →
      Mirrors view (next handle) (next' handle) session) :
    Mirrors view (pointer name >>= next) (pointer name >>= next') session := by
  apply mirrors_bind ?_ (ends_pointer h fun _ => trivial)
  apply mirrors_bind_handle
  intro found _ _
  exact mirrors_bind_require fun _ => mirrors_pure

/-- A sequence that starts with the look-up of a reference is mirrored. -/
theorem mirrors_bind_reference {next next' : Handle → Turn β}
    (h : ∀ handle, session.serial? name = some handle.serial →
      session.store.handle? handle.serial = some handle → handle.form = .reference →
      Mirrors view (next handle) (next' handle) session) :
    Mirrors view (reference name >>= next) (reference name >>= next') session := by
  apply mirrors_bind ?_ (ends_reference h fun _ => trivial)
  apply mirrors_bind_handle
  intro found _ _
  exact mirrors_bind_require fun _ => mirrors_pure

theorem mirrors_distinct {first second : String} :
    Mirrors view (distinct first second) (distinct first second) session := by
  apply mirrors_bind_handle
  intro a _ _
  apply mirrors_bind_handle
  intro b _ _
  exact mirrors_bind_require fun _ => mirrors_pure

theorem mirrors_resolve {place : Place} : Mirrors view (resolve place) (resolve place) session := by
  cases place with
  | address address => rfl
  | referent name =>
    apply mirrors_bind_referent
    intro referent _
    rw [View.address_referent]
    rfl

/-- A sequence that starts with an address of which a handle may be made is mirrored. -/
theorem mirrors_bind_resolveFor {form : Form} {scheme : Scheme} {place : Place}
    {next next' : Address → Turn β}
    (h : ∀ address, session.store.allows form scheme address = true →
      Mirrors view (next address) (next' address) session) :
    Mirrors view (resolveFor form scheme place >>= next) (resolveFor form scheme place >>= next')
      session := by
  apply mirrors_bind ?_ (ends_resolveFor (fun address _ => h address) fun _ => trivial)
  apply mirrors_bind mirrors_resolve
  apply ends_resolve ?_ fun _ => trivial
  intro address _
  apply mirrors_bind_get
  have hallows : (view.session session).store.allows form scheme address =
      session.store.allows form scheme address := by
    simp [Store.allows, View.session]
  rw [hallows]
  exact mirrors_bind_require fun _ => mirrors_pure

/-- Keeping a handle is mirrored, since the handle that was kept before is released alike. -/
theorem mirrors_keep (h : session.store.Consistent config) :
    Mirrors view (keep config name s) (keep (view.config config) name s) session := by
  apply mirrors_bind_get
  have hseen : (view.session session).serial? name = session.serial? name := rfl
  rw [hseen]
  refine mirrors_bind_modify rfl ?_
  cases session.serial? name with
  | none => exact mirrors_pure
  | some old => exact mirrors_perform (Handle.mirrors_release h)

end Turn

end CountedHandles
