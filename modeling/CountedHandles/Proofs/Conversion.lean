import CountedHandles.Handle.Bucket
import CountedHandles.Handle.Transfer
import CountedHandles.Proofs.Packing
import CountedHandles.Referent.Destroy

/-!
# Operations on packed handles

An operation is converted by another one if the other one does to packed handles what the first does
to raw ones: it has the same result or the same fault, and leaves the packed store. Every operation
on a handle is converted by itself on the packed handle, whether or not the counts and rosters of
the store are right.
-/

namespace CountedHandles

namespace Operation

/-- An operation on raw handles has the outcome that another one has once they are packed. -/
def Packs (operation packed : Operation α) (store : Store) : Prop :=
  match operation store with
  | .ok result after => packed store.pack = .ok result after.pack ∧ after.Packable
  | .error fault after => packed store.pack = .error fault after.pack ∧ after.Packable

variable {operation packed : Operation α} {cleanup : Operation Unit} {store : Store}

/-- A sequence is converted if its parts are. -/
theorem packs_bind {next next' : α → Operation β} (h : Packs operation packed store)
    (hnext : ∀ result after, operation store = .ok result after → after.Packable →
      Packs (next result) (next' result) after) :
    Packs (operation >>= next) (packed >>= next') store := by
  unfold Packs at h
  rw [Packs, run_bind, run_bind]
  cases hrun : operation store with
  | ok result after =>
    rw [hrun] at h
    rw [h.1]
    exact hnext result after hrun h.2
  | error fault after =>
    rw [hrun] at h
    rw [h.1]
    exact ⟨rfl, h.2⟩

theorem packs_pure {result : α} (h : store.Packable) :
    Packs (pure result) (pure result) store := ⟨rfl, h⟩

/-- A sequence that starts with a look at the store is converted. -/
theorem packs_bind_get {next next' : Store → Operation α}
    (h : Packs (next store) (next' store.pack) store) :
    Packs (get >>= next) (get >>= next') store := h

theorem packs_modify {change change' : Store → Store}
    (hchange : change' store.pack = (change store).pack) (h : (change store).Packable) :
    Packs (modify change) (modify change') store :=
  ⟨congrArg (EStateM.Result.ok ()) hchange, h⟩

theorem packs_panic {cause : Panic} (h : store.Packable) :
    Packs (panic cause : Operation α) (panic cause) store := ⟨rfl, h⟩

theorem packs_recordCall {call : Call} (h : store.Packable) :
    Packs (recordCall call) (recordCall call) store :=
  packs_modify (@Store.pack_addEvent store (.call call store.handles)).symm h.addEvent

theorem packs_recordLog {record : LogRecord} (h : store.Packable) :
    Packs (recordLog record) (recordLog record) store :=
  packs_modify (@Store.pack_addEvent store (.log record)).symm h.addEvent

/-- A packed handle has the target that the raw one has. -/
theorem packs_target? {serial : Serial} (h : store.Packable) :
    Packs (target? serial) (target? serial) store := by
  refine ⟨?_, h⟩
  rw [run_target?, h.target?_pack]

/-- What is done to a target is converted if the deed itself is. -/
theorem packs_onTarget {name? : Option String} {deed deed' : String → Operation Unit}
    (h : store.Packable) (hdeed : ∀ name, Packs (deed name) (deed' name) store) :
    Packs (onTarget name? deed) (onTarget name? deed') store := by
  cases name? with
  | none => exact packs_pure h
  | some name => exact hdeed name

/-- The clean-up of a panic is converted. -/
theorem packs_unwind {cause : Panic} (h : Packs cleanup cleanup store) :
    Packs (unwind cause cleanup : Operation α) (unwind cause cleanup) store := by
  unfold Packs at h ⊢
  unfold unwind
  cases hrun : cleanup store with
  | ok _ after =>
    rw [hrun] at h
    rw [h.1]
    exact ⟨rfl, h.2⟩
  | error fault after =>
    rw [hrun] at h
    rw [h.1]
    cases fault <;> exact ⟨rfl, h.2⟩

/-- An operation with a clean-up is converted if both are. -/
theorem packs_recovering (h : Packs operation packed store)
    (hcleanup : ∀ after, after.Packable → Packs cleanup cleanup after) :
    Packs (recovering operation cleanup) (recovering packed cleanup) store := by
  unfold Packs at h ⊢
  unfold recovering
  cases hrun : operation store with
  | ok result after =>
    rw [hrun] at h
    rw [h.1]
    exact ⟨rfl, h.2⟩
  | error fault after =>
    rw [hrun] at h
    rw [h.1]
    cases fault with
    | panic cause => exact packs_unwind (hcleanup after h.2)
    | violation violation => exact ⟨rfl, h.2⟩
    | collapse => exact ⟨rfl, h.2⟩

/-- An operation that is always cleaned up after is converted if both parts are. -/
theorem packs_ensuring {operation : Operation Unit} (h : Packs operation operation store)
    (hcleanup : ∀ after, after.Packable → Packs cleanup cleanup after) :
    Packs (ensuring operation cleanup) (ensuring operation cleanup) store := by
  unfold Packs at h ⊢
  unfold ensuring
  cases hrun : operation store with
  | ok result after =>
    rw [hrun] at h
    rw [h.1]
    exact hcleanup after h.2
  | error fault after =>
    rw [hrun] at h
    rw [h.1]
    cases fault with
    | panic cause => exact packs_unwind (hcleanup after h.2)
    | violation violation => exact ⟨rfl, h.2⟩
    | collapse => exact ⟨rfl, h.2⟩

end Operation

open Operation

variable {store : Store} {config : Config} {handle source : Handle} {s a b : Serial} {form : Form}
  {slot : Slot} {name : String} {address : Address} {referent : Referent} {notice : Notice}

namespace Referent

/-- Counts have the same limit. -/
theorem countLimit_pack : countLimit store.pack = countLimit store := by
  simp [countLimit, Store.pack]

theorem packs_increment (h : store.Packable) :
    Packs (increment name) (increment name) store := by
  refine packs_bind (packs_recordCall h) fun _ _ _ h => packs_bind_get ?_
  rw [Store.referent?_pack, countLimit_pack]
  split
  · exact ⟨rfl, h⟩
  · exact packs_modify rfl (h.updateReferent fun _ => rfl)

theorem packs_decrement (h : store.Packable) :
    Packs (decrement config name) (decrement config name) store := by
  refine packs_bind (packs_recordCall h) fun _ _ _ h => packs_bind_get ?_
  rw [Store.referent?_pack]
  split
  · exact packs_panic h
  · exact packs_modify rfl (h.updateReferent fun _ => rfl)

/-- A roster follows a notice alike. -/
theorem packs_follow (h : store.Packable) :
    Packs (follow config name notice) (follow config name notice) store := by
  refine packs_bind (packs_recordLog h) fun _ after _ h => packs_bind_get ?_
  rw [Store.referent?_pack]
  cases after.referent? name with
  | none => exact packs_pure h
  | some referent =>
    refine packs_bind (packs_modify rfl (h.updateReferent fun _ => rfl)) fun _ _ _ h => ?_
    split
    · exact packs_pure h
    · exact packs_panic h

theorem packs_notify (h : store.Packable) :
    Packs (notify config name notice) (notify config name notice) store := by
  unfold notify
  split
  · refine packs_bind (packs_recordCall h) fun _ _ _ h => ?_
    split
    · exact packs_follow h
    · exact packs_pure h
  · exact packs_pure h

end Referent

namespace Handle

/-! ## Temporary handles -/

theorem packs_release (h : store.Packable) : Packs (release config s) (release config s) store := by
  refine packs_bind (packs_target? h) fun held? _ _ h => ?_
  refine packs_bind (packs_modify Store.pack_removeHandle.symm h.removeHandle) fun _ _ _ h => ?_
  refine packs_onTarget h fun name => ?_
  exact packs_bind (Referent.packs_notify h) fun _ _ _ h => Referent.packs_decrement h

theorem packs_withTemporary {operation packed : Operation α} (h : Packs operation packed store) :
    Packs (withTemporary config s operation) (withTemporary config s packed) store :=
  packs_recovering h fun _ hafter => packs_release hafter

theorem packs_releaseAll {serials : List Serial} (h : store.Packable) :
    Packs (releaseAll config serials) (releaseAll config serials) store := by
  induction serials generalizing store with
  | nil => exact packs_pure h
  | cons serial rest ih => exact packs_ensuring (packs_release h) fun _ hafter => ih hafter

theorem packs_releaseEach {serials : List Serial} (h : store.Packable) :
    Packs (releaseEach config serials) (releaseEach config serials) store := by
  induction serials generalizing store with
  | nil => exact packs_pure h
  | cons serial rest ih =>
    have hrelease := @packs_release _ config serial h
    unfold Packs at hrelease ⊢
    unfold releaseEach
    cases hrun : release config serial store with
    | ok _ after =>
      rw [hrun] at hrelease
      rw [hrelease.1]
      exact ih hrelease.2
    | error fault after =>
      rw [hrun] at hrelease
      rw [hrelease.1]
      cases fault with
      | panic cause =>
        dsimp only
        rw [map_eq_pure_bind]
        exact packs_bind (ih hrelease.2) fun _ _ _ h => packs_pure h
      | violation violation => exact ⟨rfl, hrelease.2⟩
      | collapse => exact ⟨rfl, hrelease.2⟩

/-! ## New handles -/

theorem packs_addHandle (h : store.Packable) (hslot : slot.Packable) :
    Packs (addHandle form slot) (addHandle form slot.pack) store := by
  refine ⟨?_, h.addHandle hslot⟩
  rw [run_addHandle, Store.pack_addHandle, Store.nextSerial_pack]

theorem packs_null (h : store.Packable) : Packs (null .raw) (null .packed) store :=
  packs_addHandle h .null

theorem packs_deleted (h : store.Packable) : Packs (deleted .raw) (deleted .packed) store :=
  packs_addHandle h .deleted

/-- A new handle is announced alike. -/
theorem packs_announced {announce : Serial → String → Operation Unit} (h : store.Packable)
    (hslot : slot.Packable)
    (hannounce : ∀ serial name after, after.Packable →
      Packs (announce serial name) (announce serial name) after) :
    Packs (announced config form slot announce) (announced config form slot.pack announce)
      store := by
  refine packs_bind (packs_addHandle h hslot) fun serial _ _ h => ?_
  refine packs_bind (packs_target? h) fun held? _ _ h => ?_
  refine packs_bind (packs_onTarget h fun name => ?_) fun _ _ _ h => packs_pure h
  exact packs_withTemporary (hannounce serial name _ h)

theorem packs_ofAddress (h : store.Packable) (hfits : SixBytes.Fits address) :
    Packs (ofAddress config form .raw address) (ofAddress config form .packed address) store := by
  unfold ofAddress
  rw [Slot.ofAddress_packed_of_fits hfits]
  refine packs_announced h (.fits hfits) fun _ _ _ h => ?_
  exact packs_bind (Referent.packs_increment h) fun _ _ _ h => Referent.packs_notify h

theorem packs_copyAs (h : store.Packable) (hsource : source.slot.Packable) :
    Packs (copyAs config form source) (copyAs config form source.pack) store := by
  refine packs_announced h hsource fun _ _ _ h => ?_
  exact packs_bind (Referent.packs_increment h) fun _ _ _ h => Referent.packs_notify h

theorem packs_takeOver (h : store.Packable) (hslot : slot.Packable) :
    Packs (takeOver config form slot s) (takeOver config form slot.pack s) store :=
  packs_announced h hslot fun _ _ _ h => Referent.packs_notify h

/-! ## Exchanged contents -/

theorem packs_swap (h : store.Packable) : Packs (swap config a b) (swap config a b) store := by
  refine packs_bind (packs_modify Store.pack_exchangeSlots.symm h.exchangeSlots) fun _ _ _ h => ?_
  refine packs_bind (packs_target? h) fun mine? _ _ h => ?_
  refine packs_bind (packs_target? h) fun theirs? _ _ h => ?_
  split
  · refine packs_bind (packs_onTarget h fun name => Referent.packs_notify h) fun _ _ _ h => ?_
    exact packs_onTarget h fun name => Referent.packs_notify h
  · exact packs_pure h

theorem packs_reassign (h : store.Packable) :
    Packs (reassign config a b) (reassign config a b) store :=
  packs_bind (packs_withTemporary (packs_swap h)) fun _ _ _ h => packs_release h

/-- A handle is given a new content alike if the new content is created alike. -/
theorem packs_renew {creation packed : Operation Serial} (h : Packs creation packed store) :
    Packs (do reassign config s (← creation)) (do reassign config s (← packed)) store :=
  packs_bind h fun _ _ _ h => packs_reassign h

theorem packs_moveOut (h : store.Packable) (hsource : source.slot.Packable) :
    Packs (moveOut config source) (moveOut config source.pack) store := by
  unfold moveOut
  rw [scheme, hsource.scheme_eq, scheme_pack]
  refine packs_bind (packs_null h) fun taken _ _ h => ?_
  exact packs_bind (packs_withTemporary (packs_swap h)) fun _ _ _ h => packs_pure h

theorem packs_pointAt (h : store.Packable) (hhandle : handle.slot.Packable)
    (hfits : SixBytes.Fits address) :
    Packs (pointAt config handle address) (pointAt config handle.pack address) store := by
  unfold pointAt
  rw [scheme, hhandle.scheme_eq, scheme_pack]
  exact packs_renew (packs_ofAddress h hfits)

theorem packs_clear (h : store.Packable) (hhandle : handle.slot.Packable) :
    Packs (clear config handle) (clear config handle.pack) store := by
  unfold clear
  rw [scheme, hhandle.scheme_eq, scheme_pack]
  exact packs_renew (packs_null h)

theorem packs_markDeleted (h : store.Packable) (hhandle : handle.slot.Packable) :
    Packs (markDeleted config handle) (markDeleted config handle.pack) store := by
  unfold markDeleted
  rw [scheme, hhandle.scheme_eq, scheme_pack]
  exact packs_renew (packs_deleted h)

theorem packs_assignCopy (h : store.Packable) (hsource : source.slot.Packable) :
    Packs (assignCopy config handle source) (assignCopy config handle.pack source.pack) store :=
  packs_renew (packs_copyAs h hsource)

theorem packs_assignMove (h : store.Packable) (hsource : source.slot.Packable) :
    Packs (assignMove config handle source) (assignMove config handle.pack source.pack) store :=
  packs_renew (packs_moveOut h hsource)

/-! ## Changed forms and deleted buckets -/

/-- A pointer that leads somewhere becomes a reference alike; the log names the same address. -/
theorem packs_toReference (h : store.Packable)
    (hfound : store.handle? handle.serial = some handle) :
    Packs (toReference config handle) (toReference config handle.pack) store := by
  have hhandle := h.of_handle? hfound
  refine packs_bind (packs_target? h) fun held? after hrun h => ?_
  cases held? with
  | none => exact packs_panic h
  | some name =>
    have hlive : handle.slot.isDeleted = false := by
      cases hdeleted : handle.slot.isDeleted with
      | false => rfl
      | true =>
        have hnone := Slot.target?_eq_none_iff.mpr (Or.inr hdeleted)
        simp [run_target?, Store.target?, hfound, Store.targetOf?, hnone] at hrun
    dsimp only
    rw [address_pack hhandle hlive, scheme, hhandle.scheme_eq, scheme_pack]
    have hpack := @Store.pack_setSlot after handle.serial (Slot.null .raw)
    refine packs_bind (packs_modify hpack.symm (h.setSlot .null)) fun _ _ _ h => ?_
    exact packs_bind (packs_recordLog h) fun _ _ _ h => packs_takeOver h hhandle

/-- A reference that is not deleted becomes a pointer alike; the log names the same address. -/
theorem packs_toPointer (h : store.Packable) (hhandle : handle.slot.Packable)
    (hlive : handle.slot.isDeleted = false) :
    Packs (toPointer config handle) (toPointer config handle.pack) store := by
  unfold toPointer
  rw [address_pack hhandle hlive]
  refine packs_bind (packs_modify Store.pack_removeHandle.symm h.removeHandle) fun _ _ _ h => ?_
  exact packs_bind (packs_recordLog h) fun _ _ _ h => packs_takeOver h hhandle

theorem packs_requireNotDeleted (h : store.Packable) (hhandle : handle.slot.Packable) :
    Packs (requireNotDeleted handle) (requireNotDeleted handle.pack) store := by
  unfold requireNotDeleted
  rw [slot_pack, hhandle.isDeleted_pack]
  split
  · exact packs_panic h
  · exact packs_pure h

/-- A bucket is deleted alike; only what is not deleted yet is named in the log. -/
theorem packs_vacateBucket (h : store.Packable) (hhandle : handle.slot.Packable) :
    Packs (vacateBucket config handle) (vacateBucket config handle.pack) store := by
  refine packs_bind (packs_requireNotDeleted h hhandle) fun _ _ hrun h => ?_
  have hlive : handle.slot.isDeleted = false := by
    unfold requireNotDeleted at hrun
    cases hdeleted : handle.slot.isDeleted with
    | false => rfl
    | true =>
      rw [hdeleted] at hrun
      cases hrun
  rw [address_pack hhandle hlive]
  refine packs_bind (packs_recordLog h) fun _ _ _ h => ?_
  refine packs_bind (packs_moveOut h hhandle) fun _ _ _ h => ?_
  exact packs_bind (packs_release h) fun _ _ _ h => packs_markDeleted h hhandle

end Handle

namespace Referent

theorem packs_checkLifetime (h : store.Packable) :
    Packs (checkLifetime name) (checkLifetime name) store := by
  refine packs_bind_get ?_
  rw [Store.referent?_pack]
  split
  · exact packs_pure h
  · exact ⟨rfl, h⟩

/-- A referent is destroyed alike, or outlived alike. -/
theorem packs_destroy (h : store.Packable) :
    Packs (destroy config referent) (destroy config referent) store := by
  refine packs_ensuring ?_ fun _ h => packs_modify rfl h.removeReferent
  split
  · exact packs_ensuring (packs_checkLifetime h) fun _ h => Handle.packs_releaseAll h
  · exact packs_ensuring (Handle.packs_releaseAll h) fun _ h => packs_checkLifetime h

end Referent

end CountedHandles
