import CountedHandles.Proofs.Commands
import CountedHandles.Proofs.Conversion

/-!
# Commands on packed handles

A session in which all handles are raw becomes one in which all are packed, and a command on raw
handles is translated by the same command on packed ones. Both are refused, panic or answer alike,
except that an answer shows the mark of a deleted bucket as the scheme has it.
-/

namespace CountedHandles

/-! ## Answers -/

/-- An address with the packed mark in place of the raw one. -/
def Address.pack (address : Address) : Address :=
  if address = (Slot.deleted .raw).address then (Slot.deleted .packed).address else address

/-- A handle as a dump shows it once it is packed. -/
def HandleView.pack (handle : HandleView) : HandleView :=
  { handle with scheme := .packed, address := handle.address.pack }

/-- A referent as a dump shows it once all handles are packed. -/
def ReferentView.pack (referent : ReferentView) : ReferentView :=
  { referent with links := referent.links.map HandleView.pack }

/-- A dump once all handles are packed; the two sets have changed places. -/
def Dump.pack (dump : Dump) : Dump where
  handles := dump.handles.map fun (name, handle) => (name, handle.pack)
  referents := dump.referents.map ReferentView.pack
  rawMembers := dump.packedMembers
  packedMembers := dump.rawMembers

/-- What is answered about raw handles, and what is answered once they are packed: the same but for
the mark of a deleted bucket, and for the schemes that a dump shows. -/
inductive Answer.Packs : Answer → Answer → Prop
  | same (answer : Answer) : Packs answer answer
  | address (address : Address) : Packs (.address address) (.address address.pack)
  | bytes (address : Address) : Packs (.bytes address.bytes) (.bytes address.pack.bytes)
  | text (address : Address) (padding : Padding) :
      Packs (.text (address.padded padding)) (.text (address.pack.padded padding))
  | dump (shown : Dump) : Packs (.dump shown) (.dump shown.pack)

/-- A handle that is deleted, which no reference is, is printed as such. -/
theorem Handle.deletedText?_eq_some {handle : Handle}
    (hlive : handle.form = .reference → handle.slot.isDeleted = false)
    (hdeleted : handle.slot.isDeleted = true) :
    handle.deletedText? = some (handle.form.text ++ "(<deleted>)") := by
  refine if_pos ⟨?_, hdeleted⟩
  cases hform : handle.form with
  | pointer => rfl
  | reference =>
    rw [hlive hform] at hdeleted
    cases hdeleted

/-- A packed handle shows its address with the packed mark in place of the raw one. -/
theorem Handle.address_pack_eq {handle : Handle} (h : handle.slot.Packable) :
    handle.pack.address = handle.address.pack := by
  unfold Address.pack
  split
  · rename_i hmark
    have hslot : handle.slot = Slot.deleted .raw :=
      (Slot.address_inj (h.scheme_eq.trans (Slot.scheme_deleted .raw).symm)).mp hmark
    rw [address, slot_pack, hslot, Slot.pack_deleted]
  · rename_i hother
    refine address_pack h (Bool.eq_false_iff.mpr fun hdeleted => hother ?_)
    rw [Slot.isDeleted_iff, h.scheme_eq] at hdeleted
    exact hdeleted

theorem Session.viewHandle_pack {config : Config} {handle : Handle} (h : handle.slot.Packable) :
    viewHandle config handle.pack = (viewHandle config handle).pack := by
  simp [viewHandle, HandleView.pack, Handle.address_pack_eq h]

/-! ## Sessions -/

namespace Session

/-- A session with all handles packed, and with the members of the raw set in the packed one. -/
def pack (session : Session) : Session where
  store := session.store.pack
  created := session.created
  names := session.names
  rawSet := []
  packedSet := session.rawSet

/-- A session in which every handle is raw and can be packed. -/
structure Packable (session : Session) : Prop where
  /-- Every slot and every site can be packed. -/
  store : session.store.Packable
  /-- No handle is in the packed set. -/
  packedSet_eq : session.packedSet = []

variable {session : Session} {config : Config} {name : String}

@[simp] theorem store_pack : session.pack.store = session.store.pack := rfl

@[simp] theorem members_pack : session.pack.members .packed = session.members .raw := rfl

theorem setMembers_pack {members : List Serial} :
    session.pack.setMembers members .packed = (session.setMembers members .raw).pack := rfl

theorem handle?_pack : session.pack.handle? name = (session.handle? name).map Handle.pack := by
  unfold handle?
  rw [Option.map_bind]
  exact Option.bind_congr fun _ _ => Store.handle?_pack

namespace Packable

theorem withStore {store : Store} (h : session.Packable) (hstore : store.Packable) :
    { session with store := store }.Packable :=
  ⟨hstore, h.packedSet_eq⟩

theorem setMembers {members : List Serial} (h : session.Packable) :
    (session.setMembers members .raw).Packable :=
  ⟨h.store, h.packedSet_eq⟩

/-- Handles that are found are packed one by one. -/
theorem filterMap_handle?_pack {serials : List Serial} :
    serials.filterMap session.store.pack.handle? =
      (serials.filterMap session.store.handle?).map Handle.pack := by
  rw [List.map_filterMap]
  exact List.filterMap_congr fun serial _ => Store.handle?_pack

/-- A dump shows the same with all handles packed. -/
theorem dump_pack (h : session.Packable) :
    session.pack.dump config = (session.dump config).pack := by
  have hnames : session.pack.namesInOrder = session.namesInOrder := rfl
  have hpacked : session.packedSet.length = 0 := by rw [h.packedSet_eq, List.length_nil]
  have hview : ∀ handle ∈ session.store.handles,
      viewHandle config handle.pack = (viewHandle config handle).pack := fun handle hmem =>
    viewHandle_pack (h.store.slots handle hmem)
  simp only [dump, Dump.pack, hnames, hpacked, List.map_filterMap, Dump.mk.injEq]
  refine ⟨List.filterMap_congr fun entry _ => ?_, ?_, rfl, rfl⟩
  · simp only [store_pack, Store.handle?_pack, Option.map_map]
    refine Option.map_congr fun handle hfound => ?_
    simp only [Function.comp_apply, hview handle (Store.mem_of_handle? hfound)]
  · rw [store_pack, Store.referents_pack, List.map_map]
    refine List.map_congr_left fun referent _ => ?_
    simp only [Function.comp_apply, viewReferent, ReferentView.pack, store_pack,
      filterMap_handle?_pack, List.map_map]
    congr 1
    refine List.map_congr_left fun handle hmem => ?_
    obtain ⟨serial, -, hfound⟩ := List.mem_filterMap.mp hmem
    exact hview handle (Store.mem_of_handle? hfound)

end Packable

end Session

/-! ## Turns -/

/-- Whether a place is no address that does not fit; referents lie where they fit. -/
def Place.Fits : Place → Prop
  | .address given => SixBytes.Fits given
  | .referent _ => True

/-- A reference is never the mark of a deleted bucket. -/
theorem Store.WellFormed.isDeleted_eq_false {store : Store} {handle : Handle} {serial : Serial}
    (h : store.WellFormed) (hfound : store.handle? serial = some handle)
    (hform : handle.form = .reference) : handle.slot.isDeleted = false := by
  have hsite := h.isSite _ (h.live_of_reference hfound hform)
  rw [← Bool.not_eq_true, Slot.isDeleted_iff]
  exact Slot.ne_deleted_of_isSite hsite handle.slot.scheme

/-- A packed handle may be made from an address that fits where a raw one may. -/
theorem Store.allows_pack {store : Store} {form : Form} {address : Address}
    (hfits : SixBytes.Fits address) :
    store.pack.allows form .packed address = store.allows form .raw address := by
  have hmark : (address == (Slot.deleted .raw).address) = false := by
    rw [beq_eq_false_iff_ne]
    rintro rfl
    exact absurd hfits (by decide)
  cases form <;> simp [allows, hfits, hmark]

namespace Turn

open Session

/-- A turn on raw handles comes to what another one comes to once they are packed, and the results
agree. -/
def Packs (agree : α → α → Prop) (turn packed : Turn α) (session : Session) : Prop :=
  match turn session with
  | .ok result after =>
    (∃ result', packed session.pack = .ok result' after.pack ∧ agree result result') ∧
      after.Packable
  | .error stop after => packed session.pack = .error stop after.pack ∧ after.Packable

variable {turn packed : Turn α} {session : Session} {agree : β → β → Prop} {name : String}
  {serial : Serial} {scheme : Scheme} {form : Form} {place : Place}

/-- A sequence is translated if its parts are and the first has one result. -/
theorem packs_bind {next next' : α → Turn β} (h : Packs Eq turn packed session)
    (hnext : ∀ result after, after.Packable → Packs agree (next result) (next' result) after) :
    Packs agree (turn >>= next) (packed >>= next') session := by
  unfold Packs at h
  rw [Packs, run_bind, run_bind]
  cases hrun : turn session with
  | ok result after =>
    rw [hrun] at h
    obtain ⟨⟨_, hpacked, rfl⟩, hafter⟩ := h
    rw [hpacked]
    exact hnext result after hafter
  | error stop after =>
    rw [hrun] at h
    rw [h.1]
    exact ⟨rfl, h.2⟩

theorem packs_pure {result result' : β} (h : session.Packable) (hagree : agree result result') :
    Packs agree (pure result) (pure result') session :=
  ⟨⟨result', rfl, hagree⟩, h⟩

/-- A turn with an answer of its own is translated if what it does is. -/
theorem packs_bind_pure {answer : Answer} (h : Packs Eq turn packed session) :
    Packs Answer.Packs (turn >>= fun _ => pure answer) (packed >>= fun _ => pure answer) session :=
  packs_bind h fun _ _ hafter => packs_pure hafter (.same answer)

theorem packs_modify {change change' : Session → Session}
    (hchange : change' session.pack = (change session).pack) (h : (change session).Packable) :
    Packs Eq (modify change) (modify change') session :=
  ⟨⟨(), congrArg (EStateM.Result.ok ()) hchange, rfl⟩, h⟩

theorem packs_refuse {refusal : Refusal} (h : session.Packable) :
    Packs agree (refuse refusal) (refuse refusal) session := ⟨rfl, h⟩

/-- A turn that performs a converted operation is translated. -/
theorem packs_perform {operation packed : Operation α} (h : session.Packable)
    (hoperation : Operation.Packs operation packed session.store) :
    Packs Eq (perform operation) (perform packed) session := by
  unfold Operation.Packs at hoperation
  unfold Packs perform
  rw [store_pack]
  cases hrun : operation session.store with
  | ok result after =>
    rw [hrun] at hoperation
    rw [hoperation.1]
    exact ⟨⟨result, rfl, rfl⟩, h.withStore hoperation.2⟩
  | error fault after =>
    rw [hrun] at hoperation
    rw [hoperation.1]
    exact ⟨rfl, h.withStore hoperation.2⟩

/-! ### Look-ups -/

/-- A sequence that starts with a look at the session is translated. -/
theorem packs_bind_get {next next' : Session → Turn β}
    (h : Packs agree (next session) (next' session.pack) session) :
    Packs agree (get >>= next) (get >>= next') session := h

/-- A sequence that starts with a requirement is translated. -/
theorem packs_bind_require {condition : Bool} {refusal : Refusal} {next next' : Unit → Turn β}
    (h : session.Packable)
    (hnext : condition = true → Packs agree (next ()) (next' ()) session) :
    Packs agree (require condition refusal >>= next) (require condition refusal >>= next')
      session := by
  cases condition with
  | false => exact packs_refuse h
  | true => exact hnext rfl

/-- A sequence that starts with a change is translated. -/
theorem packs_bind_modify {change change' : Session → Session} {next next' : Unit → Turn β}
    (hchange : change' session.pack = (change session).pack)
    (h : Packs agree (next ()) (next' ()) (change session)) :
    Packs agree (modify change >>= next) (modify change' >>= next') session := by
  unfold Packs at h ⊢
  rw [run_bind, run_bind, run_modify, run_modify, hchange]
  exact h

/-- A sequence that starts with the look-up of a referent is translated. -/
theorem packs_bind_referent {next next' : Referent → Turn β} (h : session.Packable)
    (hnext : ∀ referent, session.store.referent? name = some referent →
      Packs agree (next referent) (next' referent) session) :
    Packs agree (referent name >>= next) (referent name >>= next') session := by
  cases hfound : session.store.referent? name with
  | none =>
    unfold Packs
    rw [run_bind, run_bind, run_referent_of_none hfound,
      @run_referent_of_none session.pack _ hfound]
    exact ⟨rfl, h⟩
  | some referent =>
    have hrun := hnext referent hfound
    unfold Packs at hrun ⊢
    rw [run_bind, run_bind, run_referent hfound, @run_referent session.pack _ _ hfound]
    exact hrun

/-- A sequence that starts with the look-up of a handle is translated. -/
theorem packs_bind_handle {next next' : Handle → Turn β} (h : session.Packable)
    (hnext : ∀ handle, session.store.handle? handle.serial = some handle → handle.slot.Packable →
      Packs agree (next handle) (next' handle.pack) session) :
    Packs agree (handle name >>= next) (handle name >>= next') session := by
  unfold handle
  rw [bind_assoc, bind_assoc]
  refine packs_bind_get ?_
  rw [handle?_pack]
  cases hfound : session.handle? name with
  | none => exact packs_refuse h
  | some found =>
    have hstored := (handle?_eq_some hfound).2
    exact hnext found hstored (h.store.of_handle? hstored)

/-- A sequence that starts with the look-up of a pointer is translated. -/
theorem packs_bind_pointer {next next' : Handle → Turn β} (h : session.Packable)
    (hnext : ∀ handle, session.store.handle? handle.serial = some handle → handle.slot.Packable →
      Packs agree (next handle) (next' handle.pack) session) :
    Packs agree (pointer name >>= next) (pointer name >>= next') session := by
  unfold pointer
  rw [bind_assoc, bind_assoc]
  refine packs_bind_handle h fun handle hstored hslot => ?_
  rw [bind_assoc, bind_assoc]
  exact packs_bind_require h fun _ => hnext handle hstored hslot

/-- A sequence that starts with the look-up of a reference is translated. -/
theorem packs_bind_reference {next next' : Handle → Turn β} (h : session.Packable)
    (hnext : ∀ handle, session.store.handle? handle.serial = some handle → handle.slot.Packable →
      handle.form = .reference → Packs agree (next handle) (next' handle.pack) session) :
    Packs agree (reference name >>= next) (reference name >>= next') session := by
  unfold reference
  rw [bind_assoc, bind_assoc]
  refine packs_bind_handle h fun handle hstored hslot => ?_
  rw [bind_assoc, bind_assoc]
  exact packs_bind_require h fun hform => hnext handle hstored hslot (by simpa using hform)

/-- A sequence that starts with finding out an address is translated. -/
theorem packs_bind_resolve {next next' : Address → Turn β} (h : session.Packable)
    (hplace : place.Fits)
    (hnext : ∀ address, SixBytes.Fits address →
      Packs agree (next address) (next' address) session) :
    Packs agree (resolve place >>= next) (resolve place >>= next') session := by
  cases place with
  | address address => exact hnext address hplace
  | referent name =>
    unfold resolve
    rw [bind_assoc, bind_assoc]
    refine packs_bind_referent h fun referent hfound => ?_
    exact hnext referent.address (h.store.fits referent (List.mem_of_find?_eq_some hfound))

/-- A sequence that starts with finding out an address of which a handle may be made is translated.
-/
theorem packs_bind_resolveFor {next next' : Address → Turn β} (h : session.Packable)
    (hplace : place.Fits)
    (hnext : ∀ address, SixBytes.Fits address →
      Packs agree (next address) (next' address) session) :
    Packs agree (resolveFor form .raw place >>= next) (resolveFor form .packed place >>= next')
      session := by
  unfold resolveFor
  rw [bind_assoc, bind_assoc]
  refine packs_bind_resolve h hplace fun address hfits => ?_
  rw [bind_assoc, bind_assoc]
  refine packs_bind_get ?_
  rw [bind_assoc, bind_assoc, store_pack, Store.allows_pack hfits]
  exact packs_bind_require h fun _ => hnext address hfits

/-- A handle is kept alike. -/
theorem packs_keep {config : Config} (h : session.Packable) :
    Packs Eq (keep config name serial) (keep config name serial) session := by
  refine packs_bind_get (packs_bind_modify rfl ?_)
  have hkept : (session.bindName name serial).Packable := ⟨h.store, h.packedSet_eq⟩
  have hserial : session.pack.serial? name = session.serial? name := rfl
  rw [hserial]
  cases session.serial? name with
  | none => exact packs_pure hkept rfl
  | some old => exact packs_perform hkept (Handle.packs_release h.store)

end Turn

/-! ## Commands -/

open Turn Session

variable {config : Config} {session : Session} {name : String}

namespace HandleCommand

/-- The same command on packed handles. -/
def pack : HandleCommand → HandleCommand
  | .null name _ => .null name .packed
  | .deleted name _ => .deleted name .packed
  | .hold form name _ referent => .hold form name .packed referent
  | .holdAddress form name _ place => .holdAddress form name .packed place
  | command => command

/-- Whether a command creates raw handles only, and none from an address that does not fit. -/
def StaysRaw : HandleCommand → Prop
  | .null _ scheme => scheme = .raw
  | .deleted _ scheme => scheme = .raw
  | .hold _ _ scheme _ => scheme = .raw
  | .holdAddress _ _ scheme place => scheme = .raw ∧ place.Fits
  | _ => True

/-- A new handle is created and kept alike. -/
theorem packs_keepNew {creation packed : Operation Serial} (h : session.Packable)
    (hcreation : Operation.Packs creation packed session.store) :
    Packs Answer.Packs (keepNew config name creation) (keepNew config name packed) session :=
  packs_bind (packs_perform h hcreation) fun _ _ hafter => packs_bind_pure (packs_keep hafter)

/-- A command that creates, moves or drops a raw handle is translated. -/
theorem packs_run (command : HandleCommand) (h : session.Packable) (hraw : command.StaysRaw)
    (hlive : ∀ handle, session.store.handle? handle.serial = some handle →
      handle.form = .reference → handle.slot.isDeleted = false) :
    Packs Answer.Packs (command.run config) (command.pack.run config) session := by
  cases command with
  | null name scheme =>
    cases hraw
    exact packs_keepNew h (Handle.packs_null h.store)
  | deleted name scheme =>
    cases hraw
    exact packs_keepNew h (Handle.packs_deleted h.store)
  | hold form name scheme referentName =>
    cases hraw
    refine packs_bind_referent h fun referent hfound => packs_keepNew h ?_
    exact Handle.packs_ofAddress h.store
      (h.store.fits referent (List.mem_of_find?_eq_some hfound))
  | holdAddress form name scheme place =>
    obtain ⟨rfl, hplace⟩ := hraw
    refine packs_bind_resolveFor h hplace fun address hfits => packs_keepNew h ?_
    exact Handle.packs_ofAddress h.store hfits
  | copy name source =>
    refine packs_bind_handle h fun handle _ hslot => packs_keepNew h ?_
    exact Handle.packs_copyAs h.store hslot
  | copyReference name source =>
    refine packs_bind_reference h fun handle _ hslot _ => packs_keepNew h ?_
    exact Handle.packs_copyAs h.store hslot
  | moveOut name source =>
    refine packs_bind_pointer h fun handle _ hslot => packs_keepNew h ?_
    exact Handle.packs_moveOut h.store hslot
  | toReference name source =>
    refine packs_bind_pointer h fun handle hstored _ => packs_keepNew h ?_
    exact Handle.packs_toReference h.store hstored
  | toPointer name source =>
    refine packs_bind_reference h fun handle hstored hslot hform => packs_bind_modify rfl ?_
    refine packs_keepNew ⟨h.store, h.packedSet_eq⟩ ?_
    exact Handle.packs_toPointer h.store hslot (hlive handle hstored hform)
  | rename name source =>
    refine packs_bind_handle h fun handle _ _ => packs_bind_modify rfl ?_
    exact packs_bind_pure (packs_keep ⟨h.store, h.packedSet_eq⟩)
  | drop name =>
    refine packs_bind_handle h fun handle _ _ => packs_bind_modify rfl ?_
    exact packs_bind_pure (packs_perform ⟨h.store, h.packedSet_eq⟩ (Handle.packs_release h.store))

end HandleCommand

namespace ChangeCommand

variable {first second : String}

/-- Whether a command needs no address that does not fit. -/
def StaysRaw : ChangeCommand → Prop
  | .pointAtAddress _ place => place.Fits
  | _ => True

/-- An operation of its own is translated as a turn if it is converted. -/
theorem packs_act {operation packed : Operation Unit} (h : session.Packable)
    (hoperation : Operation.Packs operation packed session.store) :
    Packs Answer.Packs (act operation) (act packed) session :=
  packs_bind_pure (packs_perform h hoperation)

/-- A sequence that starts with the look-up of two handles of one type is translated. -/
theorem packs_bind_sameType {pointers : Bool} {next next' : Handle × Handle → Turn Answer}
    (h : session.Packable)
    (hnext : ∀ a b, a.slot.Packable → b.slot.Packable →
      Packs Answer.Packs (next (a, b)) (next' (a.pack, b.pack)) session) :
    Packs Answer.Packs (sameType first second pointers >>= next)
      (sameType first second pointers >>= next') session := by
  unfold sameType distinct
  simp only [bind_assoc, pure_bind]
  refine packs_bind_handle h fun a _ ha => packs_bind_handle h fun b _ hb => ?_
  refine packs_bind_require h fun _ => ?_
  have hschemes : a.pack.sameType b.pack = a.sameType b := by
    simp [Handle.sameType, Handle.scheme, ha.scheme_eq, hb.scheme_eq]
  rw [hschemes, Handle.form_pack]
  exact packs_bind_require h fun _ => hnext a b ha hb

/-- A bucket is replaced alike, or refused alike. -/
theorem packs_runReplaceBucket (h : session.Packable) :
    Packs Answer.Packs (runReplaceBucket config name) (runReplaceBucket config name) session := by
  refine packs_bind_pointer h fun doomed _ hslot => ?_
  refine packs_bind (packs_perform h (Handle.packs_requireNotDeleted h.store hslot))
    fun _ _ h => ?_
  rw [Handle.scheme, hslot.scheme_eq, Handle.scheme_pack]
  refine packs_bind (packs_perform h (Handle.packs_null h.store)) fun fresh _ h => ?_
  refine packs_bind (packs_keep h) fun _ _ h => packs_bind_pointer h fun bucket _ hbucket => ?_
  exact packs_act h (Handle.packs_markDeleted h.store hbucket)

/-- A command that changes raw handles is translated. -/
theorem packs_run (command : ChangeCommand) (h : session.Packable) (hraw : command.StaysRaw) :
    Packs Answer.Packs (command.run config) (command.run config) session := by
  cases command with
  | assignPointer name source =>
    refine packs_bind_sameType h fun a b _ hb => ?_
    exact packs_act h (Handle.packs_assignCopy h.store hb)
  | assignMove name source =>
    refine packs_bind_sameType h fun a b _ hb => ?_
    exact packs_act h (Handle.packs_assignMove h.store hb)
  | assignHandle name source =>
    refine packs_bind_sameType h fun a b _ hb => ?_
    exact packs_act h (Handle.packs_assignCopy h.store hb)
  | swap name other =>
    refine packs_bind_sameType h fun a b _ _ => ?_
    exact packs_act h (Handle.packs_swap h.store)
  | pointAt name referentName =>
    refine packs_bind_referent h fun referent hfound => ?_
    refine packs_bind_handle h fun handle _ hslot => packs_act h ?_
    exact Handle.packs_pointAt h.store hslot
      (h.store.fits referent (List.mem_of_find?_eq_some hfound))
  | pointAtAddress name place =>
    refine packs_bind_handle h fun handle _ hslot => ?_
    rw [Handle.scheme, hslot.scheme_eq, Handle.scheme_pack]
    refine packs_bind_resolveFor h hraw fun address hfits => packs_act h ?_
    exact Handle.packs_pointAt h.store hslot hfits
  | clear name =>
    refine packs_bind_pointer h fun handle _ hslot => ?_
    exact packs_act h (Handle.packs_clear h.store hslot)
  | markDeleted name =>
    refine packs_bind_pointer h fun handle _ hslot => ?_
    exact packs_act h (Handle.packs_markDeleted h.store hslot)
  | vacateBucket name =>
    refine packs_bind_pointer h fun handle _ hslot => ?_
    exact packs_act h (Handle.packs_vacateBucket h.store hslot)
  | replaceBucket name => exact packs_runReplaceBucket h

end ChangeCommand

namespace SetCommand

variable {pointer : Handle}

/-- A sequence that starts with the look-up of an equal member is translated. -/
theorem packs_bind_equalMember? {next next' : Option Serial → Turn Answer} (h : session.Packable)
    (hpointer : pointer.slot.Packable)
    (hnext : ∀ member?, Packs Answer.Packs (next member?) (next' member?) session) :
    Packs Answer.Packs (equalMember? pointer >>= next) (equalMember? pointer.pack >>= next')
      session := by
  unfold equalMember?
  rw [bind_assoc, bind_assoc]
  refine packs_bind_get ?_
  have hfound : ∀ serial, ((session.store.handle? serial).map Handle.pack).any
      (fun member => member.equal pointer.pack) =
        (session.store.handle? serial).any fun member => member.equal pointer := by
    intro serial
    cases hstored : session.store.handle? serial with
    | none => rfl
    | some member => exact Handle.equal_pack (h.store.of_handle? hstored) hpointer
  rw [pure_bind, pure_bind, Handle.scheme_pack, Handle.scheme, hpointer.scheme_eq, members_pack]
  simp only [store_pack, Store.handle?_pack, hfound]
  exact hnext _

/-- A pointer is added to its set alike. -/
theorem packs_addMember (h : session.Packable) (hpointer : pointer.slot.Packable) :
    Packs Eq (addMember pointer) (addMember pointer.pack) session := by
  unfold addMember
  rw [Handle.scheme_pack, Handle.scheme, hpointer.scheme_eq]
  exact packs_modify setMembers_pack h.setMembers

/-- A member is taken out of its set alike. -/
theorem packs_removeMember {member : Serial} (h : session.Packable)
    (hpointer : pointer.slot.Packable) :
    Packs Eq (removeMember pointer.scheme member) (removeMember pointer.pack.scheme member)
      session := by
  unfold removeMember
  rw [Handle.scheme_pack, Handle.scheme, hpointer.scheme_eq]
  exact packs_modify setMembers_pack h.setMembers

/-- A command on sets of raw pointers is translated. -/
theorem packs_run (command : SetCommand) (h : session.Packable) :
    Packs Answer.Packs (command.run config) (command.run config) session := by
  cases command with
  | insert name =>
    refine packs_bind_pointer h fun pointer _ hslot => ?_
    refine packs_bind_equalMember? h hslot fun member? => packs_bind_modify rfl ?_
    have hfreed : (session.freeName name).Packable := ⟨h.store, h.packedSet_eq⟩
    cases member? with
    | none => exact packs_bind_pure (packs_addMember hfreed hslot)
    | some member => exact packs_bind_pure (packs_perform hfreed (Handle.packs_release h.store))
  | replace old name =>
    refine packs_bind_pointer h fun pointer _ hslot => ?_
    refine packs_bind_equalMember? h hslot fun member? => packs_bind_modify rfl ?_
    have hfreed : (session.freeName name).Packable := ⟨h.store, h.packedSet_eq⟩
    cases member? with
    | none => exact packs_bind_pure (packs_addMember hfreed hslot)
    | some member =>
      refine packs_bind (packs_removeMember hfreed hslot) fun _ _ h => ?_
      refine packs_bind (packs_addMember h hslot) fun _ _ h => ?_
      exact packs_bind_pure (packs_keep h)
  | contains name =>
    refine packs_bind_pointer h fun pointer _ hslot => ?_
    exact packs_bind_equalMember? h hslot fun member? => packs_pure h (.same _)
  | remove name =>
    refine packs_bind_pointer h fun pointer _ hslot => ?_
    refine packs_bind_equalMember? h hslot fun member? => ?_
    cases member? with
    | none => exact packs_pure h (.same _)
    | some member =>
      refine packs_bind (packs_removeMember h hslot) fun _ _ h => ?_
      exact packs_bind_pure (packs_perform h (Handle.packs_release h.store))
  | take old name =>
    refine packs_bind_pointer h fun pointer _ hslot => ?_
    refine packs_bind_equalMember? h hslot fun member? => ?_
    cases member? with
    | none => exact packs_pure h (.same _)
    | some member =>
      refine packs_bind (packs_removeMember h hslot) fun _ _ h => ?_
      exact packs_bind_pure (packs_keep h)

end SetCommand

namespace ReferentCommand

/-- A referent is created alike; it lies where a packed slot can lead. -/
theorem packs_runCreate {value : Int64} {address? : Option Address} (h : session.Packable) :
    Packs Answer.Packs (runCreate config name value address?)
      (runCreate config name value address?) session := by
  refine packs_bind_require h fun _ => packs_bind_get (packs_bind_require h fun _ => ?_)
  refine packs_bind_require h fun hplace => packs_bind_pure (packs_modify rfl ?_)
  rw [Bool.and_eq_true] at hplace
  have hsite := ReferentKind.isSite_of_offers hplace.1
  exact ⟨h.store.addReferent (Address.bounds_of_isSite hsite).2, h.packedSet_eq⟩

/-- A referent is destroyed alike, or outlived alike. -/
theorem packs_runDestroy (h : session.Packable) :
    Packs Answer.Packs (runDestroy config name) (runDestroy config name) session := by
  refine packs_bind_referent h fun referent hfound => packs_bind_get ?_
  have hfits := h.store.fits referent (List.mem_of_find?_eq_some hfound)
  dsimp only
  rw [store_pack, h.store.length_holders_pack hfits]
  refine packs_bind_require h fun _ => ?_
  exact packs_bind_pure (packs_perform h (Referent.packs_destroy h.store))

/-- A command on referents is translated. -/
theorem packs_run (command : ReferentCommand) (h : session.Packable) :
    Packs Answer.Packs (command.run config) (command.run config) session := by
  cases command with
  | create name value address? => exact packs_runCreate h
  | destroy name => exact packs_runDestroy h
  | roster name => exact packs_bind_referent h fun referent _ => packs_pure h (.same _)
  | provenances name =>
    refine packs_bind_require h fun _ => ?_
    exact packs_bind_referent h fun referent _ => packs_pure h (.same _)
  | printCounter name =>
    refine packs_bind_referent h fun referent _ => packs_bind_require h fun _ => ?_
    exact packs_pure h (.same _)
  | attach name handleName =>
    refine packs_bind_referent h fun referent _ => packs_bind_handle h fun handle _ _ => ?_
    refine packs_bind_modify rfl (packs_bind_pure (packs_modify rfl ?_))
    exact ⟨h.store.updateReferent fun _ => rfl, h.packedSet_eq⟩
  | detach handleName name index =>
    refine packs_bind_referent h fun referent _ => ?_
    cases referent.links[index]? with
    | none => exact packs_refuse h
    | some serial =>
      refine packs_bind_modify rfl (packs_bind_pure (packs_keep ?_))
      exact ⟨h.store.updateReferent fun _ => rfl, h.packedSet_eq⟩

end ReferentCommand

namespace LookCommand

/-- Whether a command compares with no address that does not fit. -/
def StaysRaw : LookCommand → Prop
  | .compareAddress _ place => place.Fits
  | _ => True

/-- The values along first links are the same for packed handles. -/
theorem pathValues_pack {store : Store} {limit : Nat} {serial : Serial} (h : store.Packable) :
    pathValues store.pack limit serial = pathValues store limit serial := by
  induction limit generalizing serial with
  | zero => rfl
  | succ limit ih =>
    simp only [pathValues, Store.handle?_pack]
    cases hfound : store.handle? serial with
    | none => rfl
    | some handle =>
      rw [Option.map_some, Option.bind_some, Option.bind_some,
        Store.Packable.targetOf?_pack (h.of_handle? hfound)]
      cases store.targetOf? handle with
      | none => rfl
      | some referent =>
        cases hlinks : referent.links with
        | nil => simp only [hlinks]
        | cons next _ => simp only [hlinks, ih]

/-- A handle that is printed shows the same, but for the mark of a deleted bucket. -/
theorem packs_text {handle : Handle} {style : Handle.Style} (h : handle.slot.Packable)
    (hlive : handle.form = .reference → handle.slot.isDeleted = false) :
    Answer.Packs (.text (handle.text style)) (.text (handle.pack.text style)) := by
  cases hdeleted : handle.slot.isDeleted with
  | false =>
    rw [Handle.text_pack h hdeleted]
    exact .same _
  | true =>
    have hmark := Handle.deletedText?_eq_some hlive hdeleted
    cases style with
    | line padding =>
      simp only [Handle.text, Handle.deletedText?_pack h, hmark, Option.getD_some]
      exact .same _
    | block =>
      simp only [Handle.text, Handle.deletedText?_pack h, hmark, Option.getD_some]
      exact .same _
    | address padding =>
      simp only [Handle.text, Handle.address_pack_eq h]
      exact .text handle.address padding

/-- A command that looks at raw handles is translated. -/
theorem packs_run (command : LookCommand) (h : session.Packable) (hraw : command.StaysRaw)
    (hlive : ∀ handle, session.store.handle? handle.serial = some handle →
      handle.form = .reference → handle.slot.isDeleted = false) :
    Packs Answer.Packs (command.run config) (command.run config) session := by
  cases command with
  | compare first second differ =>
    refine packs_bind_handle h fun a _ ha => packs_bind_handle h fun b _ hb => ?_
    rw [Handle.equal_pack ha hb]
    exact packs_pure h (.same _)
  | compareAddress name place =>
    refine packs_bind_resolve h hraw fun address hfits => ?_
    refine packs_bind_handle h fun handle _ hslot => ?_
    have hequal : (handle.pack.address == address) = (handle.address == address) := by
      rw [Bool.eq_iff_iff, beq_iff_eq, beq_iff_eq]
      exact hslot.address_pack_eq_iff hfits
    rw [hequal]
    exact packs_pure h (.same _)
  | hash name =>
    refine packs_bind_handle h fun handle _ hslot => ?_
    have hhash : handle.pack.hashBytes = handle.address.pack.bytes :=
      congrArg Address.bytes (Handle.address_pack_eq hslot)
    rw [hhash]
    exact packs_pure h (.bytes handle.address)
  | print name style =>
    refine packs_bind_handle h fun handle hstored hslot => ?_
    exact packs_pure h (packs_text hslot (hlive handle hstored))
  | address name =>
    refine packs_bind_handle h fun handle _ hslot => ?_
    rw [Handle.address_pack_eq hslot]
    exact packs_pure h (.address handle.address)
  | pointerAddress name =>
    refine packs_bind_pointer h fun handle _ hslot => ?_
    rw [Handle.address_pack_eq hslot]
    exact packs_pure h (.address handle.address)
  | isNull name =>
    refine packs_bind_pointer h fun handle _ hslot => ?_
    rw [Handle.slot_pack, hslot.isNull_pack]
    exact packs_pure h (.same _)
  | isDeleted name =>
    refine packs_bind_pointer h fun handle _ hslot => ?_
    rw [Handle.slot_pack, hslot.isDeleted_pack]
    exact packs_pure h (.same _)
  | serial name => exact packs_bind_handle h fun handle _ _ => packs_pure h (.same _)
  | read name access =>
    refine packs_bind_handle h fun handle _ hslot => ?_
    rw [Handle.form_pack]
    have hread : Packs Answer.Packs
        (get >>= fun session : Session => pure ((session.store.targetOf? handle).elim
          Answer.nothing fun referent => .value referent.value))
        (get >>= fun session : Session => pure ((session.store.targetOf? handle.pack).elim
          Answer.nothing fun referent => .value referent.value)) session := by
      refine packs_bind_get ?_
      rw [store_pack, Store.Packable.targetOf?_pack hslot]
      exact packs_pure h (.same _)
    cases access with
    | optional => exact packs_bind_require h fun _ => hread
    | pinned => exact hread
    | direct => exact packs_bind_require h fun _ => hread
  | write name value =>
    refine packs_bind_handle h fun handle _ hslot => packs_bind_get ?_
    rw [store_pack, Store.Packable.targetOf?_pack hslot]
    cases session.store.targetOf? handle with
    | none => exact packs_pure h (.same _)
    | some referent =>
      refine packs_bind_pure (packs_modify rfl ?_)
      exact h.withStore (h.store.updateReferent fun _ => rfl)
  | path name =>
    refine packs_bind_handle h fun handle _ _ => packs_bind_get ?_
    rw [store_pack, Handle.serial_pack, pathValues_pack h.store]
    exact packs_pure h (.same _)
  | dump =>
    refine packs_bind_get ?_
    rw [h.dump_pack]
    exact packs_pure h (.dump _)

end LookCommand

namespace Command

/-- The same command on packed handles. -/
def pack : Command → Command
  | .onHandle command => .onHandle command.pack
  | command => command

/-- Whether a command creates raw handles only and needs no address that does not fit. -/
def StaysRaw : Command → Prop
  | .onHandle command => command.StaysRaw
  | .change command => command.StaysRaw
  | .look command => command.StaysRaw
  | _ => True

/-- A precondition holds alike or is refused alike. -/
theorem packs_establish {precondition : Precondition} (h : session.Packable) :
    Packs Eq (establish config precondition) (establish config precondition) session := by
  cases precondition with
  | tracking =>
    unfold establish
    cases config.build.tracking with
    | false => exact packs_refuse h
    | true => exact packs_pure h rfl
  | place place =>
    cases place with
    | address address => exact packs_pure h rfl
    | referent name =>
      simp only [establish, resolve, bind_assoc, pure_bind]
      exact packs_bind_referent h fun _ _ => packs_pure h rfl
  | handle name => exact packs_bind_handle h fun _ _ _ => packs_pure h rfl
  | pointer name => exact packs_bind_pointer h fun _ _ _ => packs_pure h rfl
  | reference name => exact packs_bind_reference h fun _ _ _ _ => packs_pure h rfl

/-- A command that cannot be read is refused alike. -/
theorem packs_run_unreadable {preconditions : List Precondition} (h : session.Packable) :
    Packs Answer.Packs ((Command.unreadable preconditions).run config)
      ((Command.unreadable preconditions).run config) session := by
  have hall : Packs Eq (preconditions.forM (establish config))
      (preconditions.forM (establish config)) session := by
    induction preconditions generalizing session with
    | nil => exact packs_pure h rfl
    | cons precondition rest ih => exact packs_bind (packs_establish h) fun _ _ h => ih h
  exact packs_bind hall fun _ _ h => packs_refuse h

/-- A command on raw handles that calls no referent directly is translated. -/
theorem packs_run (command : Command) (hsound : session.Sound config) (h : session.Packable)
    (hcall : command.isCall = false) (hraw : command.StaysRaw) :
    Packs Answer.Packs (command.run config) (command.pack.run config) session := by
  have hlive : ∀ handle, session.store.handle? handle.serial = some handle →
      handle.form = .reference → handle.slot.isDeleted = false := fun handle hstored =>
    hsound.consistent.isDeleted_eq_false hstored
  cases command with
  | onReferent command => exact command.packs_run h
  | onHandle command => exact command.packs_run h hraw hlive
  | change command => exact command.packs_run h hraw
  | look command => exact command.packs_run h hraw hlive
  | onSet command => exact command.packs_run h
  | call command => cases hcall
  | unreadable preconditions => exact packs_run_unreadable h

end Command

end CountedHandles
