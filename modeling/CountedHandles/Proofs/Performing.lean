import CountedHandles.Handle.Bucket
import CountedHandles.Proofs.Acts

/-!
# Performing acts

On a consistent store no operation on handles meets an objection: its calls, its checks and its
clean-ups come to exactly the acts that it is meant to perform. Every operation is shown here to
return the store that its acts lead to.
-/

namespace CountedHandles

open Operation

variable {config : Config} {store : Store} {handle first second source : Handle} {a b : Serial}
  {form : Form} {slot : Slot} {name? : Option String} {notice : Notice} {referent : Referent}

namespace Store

/-- A referent that handles hold is found under its name. -/
theorem WellFormed.referent?_of_mem (h : store.WellFormed) (hmem : referent ∈ store.referents) :
    store.referent? referent.name = some referent :=
  (referent?_eq_some_iff h.nodup_names).mpr ⟨hmem, rfl⟩

/-- Whether a referent lists a handle of a consistent store depends on what the handle holds. -/
theorem Consistent.contains_of_handle? (h : store.Consistent config)
    (hmem : referent ∈ store.referents) (hlists : config.listsHolders = true)
    (hfound : store.handle? a = some handle) (hholds : handle.address = referent.address) :
    referent.roster.contains a = true := by
  rw [(h.reflects referent hmem).contains_iff]
  exact ⟨hlists, (holds_iff_of_handle? h.nodup_serials hfound).mpr hholds⟩

/-- No referent of a consistent store lists the serial number that comes next. -/
theorem Consistent.contains_nextSerial (h : store.Consistent config)
    (hmem : referent ∈ store.referents) : referent.roster.contains store.nextSerial = false := by
  rw [← Bool.not_eq_true, (h.reflects referent hmem).contains_iff]
  exact fun hholds => h.not_holds_nextSerial hholds.2

/-- A referent that a handle holds counts at least that handle. -/
theorem Consistent.count_pos (h : store.Consistent config) (hmem : referent ∈ store.referents)
    (hfound : store.handle? a = some handle) (hholds : handle.address = referent.address) :
    0 < referent.count := by
  rw [(h.reflects referent hmem).count_eq]
  refine List.length_pos_of_mem (a := handle) ?_
  rw [holders, List.mem_filter]
  exact ⟨mem_of_handle? hfound, by simpa using hholds⟩

/-- A count that agrees with the handles can be raised for one that is added to them. -/
theorem Consistent.count_lt_countLimit (h : store.Consistent config)
    (hmem : referent ∈ store.referents) :
    referent.count < Referent.countLimit (store.addHandle form slot) := by
  have hcount : referent.count ≤ store.handles.length := by
    rw [(h.reflects referent hmem).count_eq]
    exact List.length_filter_le _ _
  have hlength : (store.addHandle form slot).handles.length = store.handles.length + 1 := by
    simp [addHandle]
  have hlimit : store.handles.length + 1 ≤ Referent.countLimit (store.addHandle form slot) := by
    rw [Referent.countLimit, hlength]
    exact Nat.le_max_right _ _
  omega

end Store

namespace Referent

/-- The target of a handle, if there is one, follows a notice to which it does not object. -/
theorem run_notify_target (hnodup : store.names.Nodup)
    (hobjection : ∀ referent ∈ store.referents, name? = some referent.name →
      config.listsHolders = true → referent.roster.objection? notice = none) :
    onTarget name? (fun name => notify config name notice) store =
      .ok () (store.tell config name? [.notice notice]) := by
  cases name? with
  | none => rfl
  | some name =>
    refine run_notify hnodup fun referent hfound hlists => ?_
    obtain ⟨hmem, rfl⟩ := (Store.referent?_eq_some_iff hnodup).mp hfound
    exact hobjection referent hmem rfl hlists

/-- A referent counts a new handle and follows a notice of it. -/
theorem run_join {name : String} (hnodup : store.names.Nodup)
    (hroom : ∀ referent ∈ store.referents, referent.count < countLimit store)
    (hobjection : ∀ referent ∈ store.referents, referent.roster.objection? notice = none) :
    (do increment name; notify config name notice : Operation Unit) store =
      .ok () (store.tell config (some name) [.increment, .notice notice]) := by
  have hnames : (store.tell config (some name) [.increment]).names.Nodup := by simpa using hnodup
  have hnotify : notify config name notice (store.receive config name .increment) =
      .ok () ((store.receive config name .increment).receive config name (.notice notice)) := by
    refine run_notify hnames fun referent hfound _ => ?_
    rw [Store.referent?_receive, Option.map_eq_some_iff] at hfound
    obtain ⟨old, hold, rfl⟩ := hfound
    have hroster := hobjection old (List.mem_of_find?_eq_some hold)
    split
    · exact hroster
    · exact hroster
  have hincrement := @run_increment store name config fun referent hfound =>
    hroom referent (List.mem_of_find?_eq_some hfound)
  exact (run_bind_of_ok hincrement).trans hnotify

end Referent

namespace Handle

/-- Releasing a handle succeeds on a consistent store. -/
theorem run_release (h : store.Consistent config) (serial : Serial) :
    release config serial store = .ok () (store.released config serial) := by
  unfold release
  simp only [run_bind, run_target?, run_modify]
  cases hfound : store.handle? serial with
  | none =>
    rw [Store.released, Store.target?_of_handle?_eq_none hfound]
    rfl
  | some handle =>
    rw [Store.released, Store.target?_of_handle? hfound]
    cases hname : store.nameAt? handle.slot with
    | none => rfl
    | some name =>
      obtain ⟨referent, hmem, rfl, haddress⟩ := h.nameAt?_eq_some_iff.mp hname
      have hreferent : (store.removeHandle serial).referent? referent.name = some referent :=
        h.referent?_of_mem hmem
      have hnotify := @Referent.run_notify config (store.removeHandle serial) referent.name
        (.unregister serial) h.nodup_names fun found hfoundReferent hlists => by
          rw [hreferent] at hfoundReferent
          cases hfoundReferent
          simp [Roster.objection?, h.contains_of_handle? hmem hlists hfound haddress.symm]
      have htold : ((store.removeHandle serial).receive config referent.name
          (.notice (.unregister serial))).referent? referent.name =
          some (referent.receive config (.notice (.unregister serial))) := by
        simp [Store.referent?_receive, hreferent]
      have hcount : 0 < (referent.receive config (.notice (.unregister serial))).count := by
        rw [Referent.count_receive_notice]
        exact h.count_pos hmem hfound haddress.symm
      simp only [onTarget, run_bind, hnotify, Referent.run_decrement htold hcount]
      rfl

/-- Handles of one form exchange their contents successfully on a consistent store. -/
theorem run_swap (h : store.Consistent config) (ha : store.handle? a = some first)
    (hb : store.handle? b = some second) :
    swap config a b store = .ok () (store.swapped config a b) := by
  obtain ⟨hmine, htheirs⟩ := Store.target?_exchangeSlots h.toWellFormed ha hb
  have hnames : (store.exchangeSlots a b).names = store.names := by simp [Store.names]
  unfold swap
  simp only [run_bind, run_modify, run_target?, Store.swapped, hmine, htheirs, ne_eq, ite_not]
  split
  · rfl
  · rename_i hdiffer
    have hfirst := @Referent.run_notify_target config (store.exchangeSlots a b)
      (store.nameAt? second.slot) (.move b a) (hnames ▸ h.nodup_names) fun referent hmem hname
        hlists => by
          rw [Store.referents_exchangeSlots] at hmem
          have hholds := (h.nameAt?_eq_name_iff hmem).mp hname
          simp [Roster.objection?, h.contains_of_handle? hmem hlists hb hholds]
    have hsecond := @Referent.run_notify_target config
      ((store.exchangeSlots a b).tell config (store.nameAt? second.slot) [.notice (.move b a)])
      (store.nameAt? first.slot) (.move a b) (by simpa [hnames] using h.nodup_names)
      fun referent hmem hname hlists => by
        rw [Store.referents_tell, Store.referents_exchangeSlots, List.mem_map] at hmem
        obtain ⟨old, hold, rfl⟩ := hmem
        have htheirsName : store.nameAt? first.slot = some old.name := by
          rw [hname]
          split <;> simp
        have hmineName : store.nameAt? second.slot ≠ some old.name := fun heq =>
          hdiffer (heq.trans htheirsName.symm)
        have hholds := (h.nameAt?_eq_name_iff hold).mp htheirsName
        simp [hmineName, Roster.objection?, h.contains_of_handle? hold hlists ha hholds]
    simp only [run_bind, hfirst, hsecond]

/-- A new handle is created successfully if its referent can be told of it. -/
theorem run_announced {announce : Serial → String → Operation Unit} {messages : List Message}
    (h : store.WellFormed)
    (hannounce : ∀ name, store.nameAt? slot = some name →
      announce store.nextSerial name (store.addHandle form slot) =
        .ok () ((store.addHandle form slot).tell config (some name) messages)) :
    announced config form slot announce store = .ok store.nextSerial
      ((store.addHandle form slot).tell config (store.nameAt? slot) messages) := by
  unfold announced
  simp only [run_bind, run_addHandle, run_target?, h.target?_addHandle]
  cases hname : store.nameAt? slot with
  | none => rfl
  | some name =>
    simp only [onTarget, withTemporary, run_recovering_of_ok (hannounce name hname), run_pure]

/-- A handle is created successfully from every address that fits. -/
theorem run_ofAddress {scheme : Scheme} {address : Address} (h : store.Consistent config)
    (hslot : Slot.ofAddress scheme address = .ok slot) :
    ofAddress config form scheme address store =
      .ok store.nextSerial (store.created config form slot .created) := by
  simp only [ofAddress, hslot]
  refine run_announced h.toWellFormed fun name _ => Referent.run_join h.nodup_names
    (fun referent => h.count_lt_countLimit) ?_
  intro referent hmem
  simp [Roster.objection?, h.contains_nextSerial hmem]

/-- An address that does not fit is refused before anything happens. -/
theorem run_ofAddress_of_error {scheme : Scheme} {address : Address} {cause : Panic}
    (hslot : Slot.ofAddress scheme address = .error cause) :
    ofAddress config form scheme address store = .error (.panic cause) store := by
  simp only [ofAddress, hslot, run_panic]

/-- A handle is copied successfully. -/
theorem run_copyAs (h : store.Consistent config) :
    copyAs config form source store =
      .ok store.nextSerial (store.created config form source.slot (.copied source.serial)) := by
  refine run_announced h.toWellFormed fun name _ => Referent.run_join h.nodup_names
    (fun referent => h.count_lt_countLimit) ?_
  intro referent hmem
  simp [Roster.objection?, h.contains_nextSerial hmem]

/-- A pointer to nothing is created successfully. -/
theorem run_null {scheme : Scheme} :
    null scheme store =
      .ok store.nextSerial (store.created config .pointer (Slot.null scheme) .created) := by
  rw [Store.created_of_target? (Slot.target?_null scheme)]
  rfl

/-- A mark of a deleted bucket is created successfully. -/
theorem run_deleted {scheme : Scheme} :
    deleted scheme store =
      .ok store.nextSerial (store.created config .pointer (Slot.deleted scheme) .created) := by
  rw [Store.created_of_target? (Slot.target?_deleted scheme)]
  rfl

/-- A handle takes over successfully from one that has just given up what it held. -/
theorem run_takeOver {between : Store} (h : store.Consistent config)
    (hfound : store.handle? a = some handle) (hbetween : between.WellFormed)
    (hreferents : between.referents = store.referents) :
    takeOver config form handle.slot a between =
      .ok between.nextSerial (between.created config form handle.slot (.moved a)) := by
  refine run_announced hbetween fun name hname => ?_
  refine Referent.run_notify hbetween.nodup_names fun referent hreferent hlists => ?_
  obtain ⟨hmem, rfl⟩ := (Store.referent?_eq_some_iff hbetween.nodup_names).mp hreferent
  have hholds := (hbetween.nameAt?_eq_name_iff hmem).mp hname
  rw [hreferents] at hmem
  simp [Roster.objection?, h.contains_of_handle? hmem hlists hfound hholds]

/-- A pointer that holds a referent becomes a reference successfully. -/
theorem run_toReference (h : store.Consistent config)
    (hfound : store.handle? handle.serial = some handle) (hform : handle.form = .pointer)
    (hsite : handle.address ∈ store.sites) :
    toReference config handle store =
      .ok store.nextSerial (store.madeReference config handle) := by
  have htarget : store.nameAt? handle.slot ≠ none := fun hnone =>
    h.nameAt?_eq_none_iff.mp hnone hsite
  obtain ⟨name, hname⟩ := Option.ne_none_iff_exists'.mp htarget
  have hvacant : ({ handle with slot := Slot.null handle.scheme } : Handle).Settled store :=
    Or.inl ⟨hform, Slot.target?_null _⟩
  have htakeOver := @run_takeOver config store handle handle.serial .reference
    ((store.setSlot handle.serial (Slot.null handle.scheme)).addEvent
      (.log (.releasing handle.address .reference)))
    h hfound (h.setSlot hfound hvacant).addEvent rfl
  unfold toReference
  simp only [run_bind, run_target?, Store.target?_of_handle? hfound, hname, run_modify,
    run_recordLog, htakeOver]
  rfl

/-- A pointer that holds no referent cannot become a reference, and nothing happens to it. -/
theorem run_toReference_of_vacant (h : store.Consistent config)
    (hfound : store.handle? handle.serial = some handle) (hsite : handle.address ∉ store.sites) :
    toReference config handle store = .error (.panic .releasedNull) store := by
  have hnone : store.nameAt? handle.slot = none := h.nameAt?_eq_none_iff.mpr hsite
  unfold toReference
  simp only [run_bind, run_target?, Store.target?_of_handle? hfound, hnone, run_panic]

/-- A reference becomes a pointer successfully. -/
theorem run_toPointer (h : store.Consistent config)
    (hfound : store.handle? handle.serial = some handle) :
    toPointer config handle store = .ok store.nextSerial (store.madePointer config handle) := by
  have htakeOver := @run_takeOver config store handle handle.serial .pointer
    ((store.removeHandle handle.serial).addEvent (.log (.releasing handle.address .pointer)))
    h hfound h.removeHandle.addEvent rfl
  unfold toPointer
  simp only [run_bind, run_modify, run_recordLog, htakeOver]
  rfl

end Handle

end CountedHandles
