import CountedHandles.Proofs.Equality
import CountedHandles.Proofs.Frames
import CountedHandles.Proofs.Independence
import CountedHandles.Proofs.Tombstones

/-!
# The reach of commands

A command reaches the referents that its handles hold when it starts, and the one that is meant as a
target. This file reads the reach off a session and a command, and shows that everything outside it
is spared. Handles that are null or marks of deleted buckets, of whichever scheme, add nothing to
it.
-/

namespace CountedHandles

/-- The names of the handles that a command on sets is about. -/
def SetCommand.names : SetCommand → List String
  | .insert name => [name]
  | .replace old name => [old, name]
  | .contains name => [name]
  | .remove name => [name]
  | .take old name => [old, name]

/-- The names of the handles that a command on referents is about. -/
def ReferentCommand.names : ReferentCommand → List String
  | .attach _ handle => [handle]
  | .detach handle _ _ => [handle]
  | _ => []

/-- The names of the handles that a command may give or take something. -/
def Command.operandNames : Command → List String
  | .onHandle command => command.names
  | .change command => command.names
  | .onSet command => command.names
  | .onReferent command => command.names
  | _ => []

namespace Session

/-- The handles that a referent drops when it is destroyed by a command. -/
def links (session : Session) : Command → List Serial
  | .onReferent (.destroy name) => session.store.linksOf name
  | _ => []

/-- The handles that a command is about, as they are before it. -/
def operands (session : Session) (command : Command) : List Serial :=
  command.operandNames.filterMap session.serial? ++ session.links command

/-- The referent that is meant by a place. -/
def referentAt? (session : Session) (place : Place) : Option String :=
  (session.addressOf? place).bind fun address =>
    (session.store.referentAt? address).map Referent.name

/-- The referents that are given to a command as targets, or that it creates or destroys. -/
def aims (session : Session) : Command → List String
  | .onHandle (.hold _ _ _ referent) => (session.referentAt? (.referent referent)).toList
  | .onHandle (.holdAddress _ _ _ place) => (session.referentAt? place).toList
  | .change (.pointAt _ referent) => (session.referentAt? (.referent referent)).toList
  | .change (.pointAtAddress _ place) => (session.referentAt? place).toList
  | .onReferent (.create name _ _) => [name]
  | .onReferent (.destroy name) => [name]
  | _ => []

/-- The referents that a command can reach: those that its handles hold before it, and its aims. -/
def reach (session : Session) (command : Command) : List String :=
  (session.operands command).filterMap session.store.target? ++ session.aims command

open Turn Store

variable {config : Config} {names : List String} {session : Session} {before store : Store}
  {command : Command} {name : String} {s : Serial} {cut : Stop → Session → Prop} {handle : Handle}
  {slot : Slot} {place : Place} {address : Address} {scheme : Scheme}

/-- The handles that a command is about lead to its reach. -/
theorem within_reach_of_operand (h : s ∈ session.operands command) :
    session.store.Within (session.reach command) s := fun _ htarget =>
  List.mem_append_left _ (List.mem_filterMap.mpr ⟨s, h, htarget⟩)

/-- A handle under a name that a command is about leads to its reach. -/
theorem within_reach (hname : name ∈ command.operandNames)
    (hserial : session.serial? name = some s) :
    session.store.Within (session.reach command) s :=
  within_reach_of_operand (List.mem_append_left _ (List.mem_filterMap.mpr ⟨name, hname, hserial⟩))

/-- A slot that is made from the address that is meant as a target leads to the reach. -/
theorem slotWithin_reach (haims : session.aims command = (session.referentAt? place).toList)
    (hgiven : session.addressOf? place = some address)
    (hslot : Slot.ofAddress scheme address = .ok slot) :
    session.store.SlotWithin (session.reach command) slot := by
  intro name hname
  obtain ⟨referent, hfound, rfl⟩ := Option.map_eq_some_iff.mp hname
  obtain ⟨target, htarget, hat⟩ := Option.bind_eq_some_iff.mp hfound
  have haddress : target = address :=
    (Slot.address_of_target? htarget).symm.trans (Slot.address_of_ofAddress hslot)
  refine List.mem_append_right _ ?_
  rw [haims, referentAt?, hgiven, Option.bind_some, ← haddress, hat]
  exact List.mem_singleton.mpr rfl

end Session

open Turn Session

namespace Session

variable {config : Config} {names : List String} {session : Session} {before store : Store}
  {name source : String} {s : Serial} {cut : Stop → Session → Prop}

/-- When a handle is kept under a name, only the referent of the handle that was kept there is
concerned. -/
theorem ends_keep_spares (h : before.Spares config names session.store)
    (hold : ∀ old, session.serial? name = some old → before.Within names old) :
    (keep config name s).Ends session (fun _ after => before.Spares config names after.store)
      cut := by
  cases hserial : session.serial? name with
  | none => exact ends_keep_of_free hserial h
  | some old =>
    exact ends_keep_of_taken h.consistent hserial
      (h.trans (.released h.consistent (h.within (hold old hserial))))

/-- When a new handle is kept under a name, only the referents are concerned that its creation
concerns and that of the handle that was kept there. -/
theorem ends_keepNew_spares {creation : Operation Serial}
    (hrun : creation session.store = .ok s store) (h : session.store.Spares config names store)
    (hold : ∀ old, session.serial? name = some old → session.store.Within names old) :
    (HandleCommand.keepNew config name creation).Ends session
      (fun _ after => session.store.Spares config names after.store) cut := by
  have hkept : (keep config name s).Ends { session with store := store }
      (fun _ after => session.store.Spares config names after.store) cut :=
    ends_keep_spares h hold
  exact ends_bind (ends_perform hrun (ends_bind (hkept.imp fun _ _ hdone => ends_pure hdone)))

/-- A name that stands for a handle when another one has been freed stood for it before. -/
theorem serial?_of_freeName (h : (session.freeName source).serial? name = some s) :
    session.serial? name = some s := by
  rw [serial?_freeName] at h
  split at h
  · cases h
  · exact h

end Session

namespace HandleCommand

variable {config : Config} {session : Session}

/-- A command that creates, moves or drops a handle spares all that it does not reach. -/
theorem ends_spares (command : HandleCommand) (h : session.Sound config) :
    (command.run config).Ends session (fun _ after => session.store.Spares config
      (session.reach (.onHandle command)) after.store) fun _ _ => True := by
  have hc := h.consistent
  have hw := hc.toWellFormed
  have hrefuse : ∀ _ : Refusal, True := fun _ => trivial
  have hold {name : String} (hname : name ∈ command.names) :
      ∀ old, session.serial? name = some old →
        session.store.Within (session.reach (.onHandle command)) old :=
    fun _ hserial => within_reach hname hserial
  cases command with
  | null name scheme =>
    exact ends_keepNew_spares Handle.run_null
      (.created hc (Store.slotWithin_of_target? (Slot.target?_null _)) (Store.settled_null _)
        (by simp)) (hold List.mem_cons_self)
  | deleted name scheme =>
    exact ends_keepNew_spares Handle.run_deleted
      (.created hc (Store.slotWithin_of_target? (Slot.target?_deleted _)) (Store.settled_deleted _)
        (by simp)) (hold List.mem_cons_self)
  | hold form name scheme referentName =>
    refine ends_bind (ends_referent (fun referent hfound => ?_) hrefuse)
    have hsite := Store.mem_sites_of_referent? hfound
    have hgiven : session.addressOf? (.referent referentName) = some referent.address := by
      rw [addressOf?, hfound, Option.map_some]
    obtain ⟨slot, hslot⟩ := Slot.exists_ofAddress_of_isSite (hw.isSite _ hsite) scheme
    exact ends_keepNew_spares (Handle.run_ofAddress hc hslot)
      (.created hc (slotWithin_reach rfl hgiven hslot) (Store.settled_of_site hsite hslot)
        (by simp)) (hold List.mem_cons_self)
  | holdAddress form name scheme place =>
    refine ends_bind (ends_resolveFor (fun address hgiven hallows => ?_) hrefuse)
    cases hslot : Slot.ofAddress scheme address with
    | ok slot =>
      exact ends_keepNew_spares (Handle.run_ofAddress hc hslot)
        (.created hc (slotWithin_reach rfl hgiven hslot) (Store.settled_of_allows hallows hslot)
          (by simp)) (hold List.mem_cons_self)
    | error cause =>
      exact ends_bind (ends_perform_of_error (Handle.run_ofAddress_of_error hslot) trivial)
  | copy name source =>
    refine ends_bind (ends_handle (fun handle hserial hstored => ?_) hrefuse)
    have hwithin := hold (List.mem_cons_of_mem _ List.mem_cons_self) _ hserial
    exact ends_keepNew_spares (Handle.run_copyAs hc)
      (.created hc (hwithin.slotWithin hstored) (hw.settled_copy hstored (Or.inl rfl)) (by simp))
      (hold List.mem_cons_self)
  | copyReference name source =>
    refine ends_bind (ends_reference (fun handle hserial hstored _ => ?_) hrefuse)
    have hwithin := hold (List.mem_cons_of_mem _ List.mem_cons_self) _ hserial
    exact ends_keepNew_spares (Handle.run_copyAs hc)
      (.created hc (hwithin.slotWithin hstored) (hw.settled_copy hstored (Or.inr rfl)) (by simp))
      (hold List.mem_cons_self)
  | moveOut name source =>
    refine ends_bind (ends_pointer (fun handle hserial hstored hform => ?_) hrefuse)
    have hwithin := hold (List.mem_cons_of_mem _ List.mem_cons_self) _ hserial
    exact ends_keepNew_spares (Handle.run_moveOut hc hstored)
      (.movedOut hc hstored hform hwithin) (hold List.mem_cons_self)
  | toReference name source =>
    refine ends_bind (ends_pointer (fun handle hserial hstored hform => ?_) hrefuse)
    have hwithin := hold (List.mem_cons_of_mem _ List.mem_cons_self) _ hserial
    by_cases hlive : handle.address ∈ session.store.sites
    · exact ends_keepNew_spares (Handle.run_toReference hc hstored hform hlive)
        (.madeReference hc hstored hform hlive hwithin) (hold List.mem_cons_self)
    · exact ends_bind (ends_perform_of_error (Handle.run_toReference_of_vacant hc hstored hlive)
        trivial)
  | toPointer name source =>
    refine ends_bind (ends_reference (fun handle hserial hstored hform => ?_) hrefuse)
    have hwithin := hold (List.mem_cons_of_mem _ List.mem_cons_self) _ hserial
    have hfreed := @ends_keepNew_spares config _ (session.freeName source) _ name _
      (fun _ _ => True) _ (Handle.run_toPointer hc hstored)
      (.madePointer hc hstored hform hwithin)
      fun old hserial => hold List.mem_cons_self old (serial?_of_freeName hserial)
    exact ends_bind (ends_modify hfreed)
  | rename name source =>
    refine ends_bind (ends_handle (fun handle hserial hstored => ?_) hrefuse)
    have hkept := @ends_keep_spares config (session.reach (.onHandle (.rename name source)))
      (session.freeName source) _ name handle.serial (fun _ _ => True) (.refl hc)
      fun old hserial => hold List.mem_cons_self old (serial?_of_freeName hserial)
    exact ends_bind (ends_modify (ends_bind (hkept.imp fun _ _ hdone => ends_pure hdone)))
  | drop name =>
    refine ends_bind (ends_handle (fun handle hserial hstored => ?_) hrefuse)
    refine ends_bind (ends_modify (ends_bind (ends_perform (Handle.run_release hc _) ?_)))
    exact ends_pure (.released hc (hold List.mem_cons_self _ hserial))

end HandleCommand

namespace ChangeCommand

variable {config : Config} {session : Session} {command : ChangeCommand} {scheme : Scheme}
  {value : Slot} {giver? : Option Serial} {bucket : Handle} {store : Store} {names : List String}

/-- The value that a command gives a handle leads to the reach of the command. -/
theorem slotWithin_of_given? (hgiven : session.given? scheme command = some (value, giver?)) :
    session.store.SlotWithin (session.reach (.change command)) value := by
  have hcopied {source : String} {other : Handle} (hname : source ∈ command.names)
      (hother : session.handle? source = some other) :
      session.store.SlotWithin (session.reach (.change command)) other.slot := by
    obtain ⟨hserial, hstored⟩ := handle?_eq_some hother
    exact (within_reach hname hserial).slotWithin hstored
  have hmeant {place : Place} {slot : Slot}
      (haims : session.aims (.change command) = (session.referentAt? place).toList)
      (hslot : session.slotFor? scheme place = some slot) :
      session.store.SlotWithin (session.reach (.change command)) slot := by
    obtain ⟨address, haddress, hmade⟩ := Option.bind_eq_some_iff.mp hslot
    cases hresult : Slot.ofAddress scheme address with
    | ok made =>
      rw [hresult] at hmade
      cases hmade
      exact slotWithin_reach haims haddress hresult
    | error cause =>
      rw [hresult] at hmade
      cases hmade
  cases command with
  | assignPointer name source =>
    obtain ⟨other, hother, heq⟩ := Option.map_eq_some_iff.mp hgiven
    cases heq
    exact hcopied (List.mem_cons_of_mem _ List.mem_cons_self) hother
  | assignMove name source =>
    obtain ⟨other, hother, heq⟩ := Option.map_eq_some_iff.mp hgiven
    cases heq
    exact hcopied (List.mem_cons_of_mem _ List.mem_cons_self) hother
  | assignHandle name source =>
    obtain ⟨other, hother, heq⟩ := Option.map_eq_some_iff.mp hgiven
    cases heq
    exact hcopied (List.mem_cons_of_mem _ List.mem_cons_self) hother
  | pointAt name referentName =>
    obtain ⟨slot, hslot, heq⟩ := Option.map_eq_some_iff.mp hgiven
    cases heq
    exact hmeant rfl hslot
  | pointAtAddress name place =>
    obtain ⟨slot, hslot, heq⟩ := Option.map_eq_some_iff.mp hgiven
    cases heq
    exact hmeant rfl hslot
  | clear name =>
    cases hgiven
    exact Store.slotWithin_of_target? (Slot.target?_null _)
  | markDeleted name =>
    cases hgiven
    exact Store.slotWithin_of_target? (Slot.target?_deleted _)
  | swap _ _ => cases hgiven
  | vacateBucket _ => cases hgiven
  | replaceBucket _ => cases hgiven

/-- A bucket that is deleted by putting an empty one in its place concerns only its referent. -/
theorem spares_replaced (h : store.Consistent config)
    (hfound : store.handle? bucket.serial = some bucket)
    (hwithin : store.Within names bucket.serial) :
    store.Spares config names (store.replaced config bucket) := by
  have hcreated : store.Spares config names
      (store.created config .pointer (Slot.null bucket.scheme) .created) :=
    .created h (Store.slotWithin_of_target? (Slot.target?_null _)) (Store.settled_null _) (by simp)
  have hrefilled : store.Spares config names (store.refilled config bucket) :=
    hcreated.trans (.released hcreated.consistent (hcreated.within hwithin))
  have hfresh : (store.refilled config bucket).handle? store.nextSerial =
      some (store.nextHandle .pointer (Slot.null bucket.scheme)) :=
    (Store.handle?_released (h.ne_nextSerial hfound).symm).trans
      (Store.handle?_created_nextSerial h.toWellFormed)
  exact hrefilled.trans (.renewed hrefilled.consistent hfresh (Store.settled_deleted _) (by simp)
    (hrefilled.within h.within_nextSerial) (Store.slotWithin_of_target? (Slot.target?_deleted _)))

/-- A command that changes handles spares all that it does not reach. -/
theorem ends_spares (command : ChangeCommand) (h : session.Sound config) :
    (command.run config).Ends session (fun _ after => session.store.Spares config
      (session.reach (.change command)) after.store) fun _ _ => True := by
  have hc := h.consistent
  have hrefuse : ∀ _ : Refusal, True := fun _ => trivial
  have hreassign {name : String} (hname : name ∈ command.names)
      (hreassigns : command.reassigns? = some name) :
      (command.run config).Ends session (fun _ after => session.store.Spares config
        (session.reach (.change command)) after.store) fun _ _ => True := by
    refine ((ends_reassign command h hreassigns).imp ?_).cut_imp fun _ _ _ => trivial
    rintro _ _ ⟨-, change, store, hchange, hstore, rfl⟩
    obtain ⟨hhandle, hgiven⟩ := (reassignment?_eq_some_iff hreassigns).mp hchange
    exact hstore.spares hc (within_reach hname (handle?_eq_some hhandle).1)
      (slotWithin_of_given? hgiven)
  cases command with
  | swap name other =>
    refine ends_bind (ends_sameType (fun a b haSerial ha hbSerial hb _ hform _ _ => ?_) hrefuse)
    exact ends_act (Handle.run_swap hc ha hb) (.swapped hc ha hb hform
      (within_reach List.mem_cons_self haSerial)
      (within_reach (List.mem_cons_of_mem _ List.mem_cons_self) hbSerial))
  | vacateBucket name =>
    refine ends_bind (ends_pointer (fun handle hserial hstored hform => ?_) hrefuse)
    cases hdeleted : handle.slot.isDeleted with
    | false =>
      exact ends_act (Handle.run_vacateBucket hc hstored hform hdeleted)
        (.vacated hc hstored hform (within_reach List.mem_cons_self hserial))
    | true =>
      exact ends_bind (ends_perform_of_error (Handle.run_vacateBucket_of_deleted hdeleted) trivial)
  | replaceBucket name =>
    by_cases hbucket : ∃ bucket, session.handle? name = some bucket ∧ bucket.form = .pointer ∧
        bucket.slot.isDeleted = false
    · obtain ⟨bucket, hfound, hform, hdeleted⟩ := hbucket
      obtain ⟨hserial, hstored⟩ := handle?_eq_some hfound
      refine ((ends_replaceBucket hc hserial hstored hform hdeleted).imp ?_).cut_imp
        fun _ _ _ => trivial
      rintro _ _ ⟨-, rfl⟩
      exact spares_replaced hc hstored (within_reach List.mem_cons_self hserial)
    · refine ends_bind (ends_pointer (fun doomed hserial hstored hform => ?_) hrefuse)
      have hdeleted : doomed.slot.isDeleted = true := by
        by_contra hnot
        exact hbucket ⟨doomed, handle?_of_serial? hserial hstored, hform, by simpa using hnot⟩
      have hguard := Handle.run_requireNotDeleted doomed session.store
      rw [if_pos hdeleted] at hguard
      exact ends_bind (ends_perform_of_error hguard trivial)
  | assignPointer _ _ => exact hreassign List.mem_cons_self rfl
  | assignMove _ _ => exact hreassign List.mem_cons_self rfl
  | assignHandle _ _ => exact hreassign List.mem_cons_self rfl
  | pointAt _ _ => exact hreassign List.mem_cons_self rfl
  | pointAtAddress _ _ => exact hreassign List.mem_cons_self rfl
  | clear _ => exact hreassign List.mem_cons_self rfl
  | markDeleted _ => exact hreassign List.mem_cons_self rfl

end ChangeCommand

namespace SetCommand

variable {config : Config} {session : Session} {pointer : Handle}

/-- A member that is looked up is equal to the pointer. -/
theorem ends_equalMember?_equal {done : Option Serial → Session → Prop}
    {cut : Stop → Session → Prop} (hnone : done none session)
    (hsome : ∀ s member, session.store.handle? s = some member → member.equal pointer = true →
      done (some s) session) : (equalMember? pointer).Ends session done cut := by
  refine ends_bind (ends_get (ends_pure ?_))
  cases hfound : (session.members pointer.scheme).find? fun serial =>
      (session.store.handle? serial).any fun member => member.equal pointer with
  | none => exact hnone
  | some s =>
    have hequal := List.find?_some hfound
    obtain ⟨member, hmember, hequal⟩ := (Option.any_eq_true _ _).mp hequal
    exact hsome s member hmember hequal

/-- Handles that are equal lead to the same referent. -/
theorem within_of_equal {store : Store} {names : List String} {s : Serial} {member : Handle}
    (h : store.WellFormed) (hstored : store.handle? pointer.serial = some pointer)
    (hmember : store.handle? s = some member) (hequal : member.equal pointer = true)
    (hwithin : store.Within names pointer.serial) : store.Within names s := by
  have haddress : member.slot.address = pointer.slot.address := Handle.equal_iff.mp hequal
  intro name hname
  rw [Store.target?_of_handle? hmember, h.nameAt?_eq_some_iff, haddress] at hname
  exact hwithin.slotWithin hstored name (h.nameAt?_eq_some_iff.mpr hname)

/-- A command on sets spares all that it does not reach. -/
theorem ends_spares (command : SetCommand) (h : session.Sound config) :
    (command.run config).Ends session (fun _ after => session.store.Spares config
      (session.reach (.onSet command)) after.store) fun _ _ => True := by
  have hc := h.consistent
  have hrefuse : ∀ _ : Refusal, True := fun _ => trivial
  have hsame : session.store.Spares config (session.reach (.onSet command)) session.store :=
    .refl hc
  have hold {name : String} (hname : name ∈ command.names) :
      ∀ old, session.serial? name = some old →
        session.store.Within (session.reach (.onSet command)) old :=
    fun _ hserial => within_reach hname hserial
  cases command with
  | insert name =>
    refine ends_bind (ends_pointer (fun pointer hserial hstored _ => ?_) hrefuse)
    refine ends_bind (ends_equalMember? fun member? _ => ends_bind (ends_modify ?_))
    cases member? with
    | none =>
      refine ends_bind (ends_modify (ends_pure ?_))
      rw [store_setMembers]
      exact hsame
    | some member =>
      exact ends_bind (ends_perform (Handle.run_release hc _)
        (ends_pure (.released hc (hold List.mem_cons_self _ hserial))))
  | replace old name =>
    refine ends_bind (ends_pointer (fun pointer _ _ _ => ?_) hrefuse)
    refine ends_bind (ends_equalMember? fun member? _ => ends_bind (ends_modify ?_))
    cases member? with
    | none =>
      refine ends_bind (ends_modify (ends_pure ?_))
      rw [store_setMembers]
      exact hsame
    | some member =>
      refine ends_bind (ends_modify (ends_bind (ends_modify (ends_bind ((ends_keep_spares ?_ ?_).imp
        fun _ _ hdone => ends_pure hdone)))))
      · rw [store_setMembers, store_setMembers]
        exact hsame
      · intro other hserial
        rw [serial?_setMembers, serial?_setMembers] at hserial
        exact hold List.mem_cons_self other (serial?_of_freeName hserial)
  | contains name =>
    refine ends_bind (ends_pointer (fun pointer _ _ _ => ?_) hrefuse)
    exact ends_bind (ends_equalMember? fun _ _ => ends_pure hsame)
  | remove name =>
    refine ends_bind (ends_pointer (fun pointer hserial hstored _ => ?_) hrefuse)
    refine ends_bind (ends_equalMember?_equal (ends_pure hsame) fun s member hmember hequal => ?_)
    have hwithin := within_of_equal hc.toWellFormed hstored hmember hequal
      (hold List.mem_cons_self _ hserial)
    have hrelease : Handle.release config s (session.setMembers
        ((session.members pointer.scheme).filter fun member => member != s)
        pointer.scheme).store = .ok () (session.store.released config s) := by
      rw [store_setMembers]
      exact Handle.run_release hc s
    exact ends_bind (ends_modify (ends_bind (ends_perform hrelease
      (ends_pure (.released hc hwithin)))))
  | take old name =>
    refine ends_bind (ends_pointer (fun pointer _ _ _ => ?_) hrefuse)
    refine ends_bind (ends_equalMember? fun member? _ => ?_)
    cases member? with
    | none => exact ends_pure hsame
    | some member =>
      refine ends_bind (ends_modify (ends_bind ((ends_keep_spares ?_ ?_).imp
        fun _ _ hdone => ends_pure hdone)))
      · rw [store_setMembers]
        exact hsame
      · intro other hserial
        rw [serial?_setMembers] at hserial
        exact hold List.mem_cons_self other hserial

end SetCommand

namespace ReferentCommand

variable {config : Config} {session : Session}

/-- A command on referents spares all that it does not reach. -/
theorem ends_spares (command : ReferentCommand) (h : session.Sound config) :
    (command.run config).Ends session (fun _ after => session.store.Spares config
      (session.reach (.onReferent command)) after.store) fun _ _ => True := by
  have hc := h.consistent
  have hrefuse : ∀ _ : Refusal, True := fun _ => trivial
  have hsame : session.store.Spares config (session.reach (.onReferent command)) session.store :=
    .refl hc
  cases command with
  | create name value address? =>
    refine (ends_create hrefuse).imp ?_
    rintro _ _ ⟨address, hsite, hfree, hname, rfl⟩
    exact .addReferent hc (fun hmem => hname (h.created_mem name hmem)) hfree hsite
      (List.mem_append_right _ List.mem_cons_self)
  | destroy name =>
    cases hfound : session.store.referent? name with
    | none =>
      refine ends_bind (ends_referent (fun referent hsome => ?_) hrefuse)
      rw [hfound] at hsome
      cases hsome
    | some referent =>
      obtain ⟨hmem, rfl⟩ := (Store.referent?_eq_some_iff hc.nodup_names).mp hfound
      unfold Ends
      rw [run_destroy h hfound]
      cases hchecked : (session.store.checkpoint config referent).violationOf? referent.name with
      | none =>
        refine .destroyed hc hmem hchecked (List.mem_append_right _ List.mem_cons_self)
          fun s hs => within_reach_of_operand (List.mem_append_right _ ?_)
        rw [links, Store.linksOf, hfound]
        exact hs
      | some violation => trivial
  | roster name => exact ends_bind (ends_referent (fun _ _ => ends_pure hsame) hrefuse)
  | provenances name =>
    exact ends_bind (ends_require (fun _ => ends_bind (ends_referent (fun _ _ =>
      ends_pure hsame) hrefuse)) hrefuse)
  | printCounter name =>
    exact ends_bind (ends_referent (fun _ _ => ends_bind (ends_require (fun _ =>
      ends_pure hsame) hrefuse)) hrefuse)
  | attach name handleName =>
    refine ends_bind (ends_referent (fun referent _ => ?_) hrefuse)
    refine ends_bind (ends_handle (fun handle _ _ => ?_) hrefuse)
    exact ends_bind (ends_modify (ends_bind (ends_modify (ends_pure
      (.updateReferent hc (unobtrusive_links fun links => links ++ [handle.serial]))))))
  | detach handleName name index =>
    refine ends_bind (ends_referent (fun referent _ => ?_) hrefuse)
    cases hlink : referent.links[index]? with
    | none => exact ends_refuse trivial
    | some serial =>
      refine ends_bind (ends_modify (ends_bind ((ends_keep_spares
        (.updateReferent hc (unobtrusive_links fun links => links.eraseIdx index)) ?_).imp
        fun _ _ hdone => ends_pure hdone)))
      exact fun other hserial => within_reach List.mem_cons_self hserial

end ReferentCommand

/-- A command that calls no referent directly spares all that it does not reach. -/
theorem Command.ends_spares {config : Config} {session : Session} (command : Command)
    (h : session.Sound config) (hcall : command.isCall = false) :
    (command.run config).Ends session (fun _ after => session.store.Spares config
      (session.reach command) after.store) fun _ _ => True := by
  have hc := h.consistent
  cases command with
  | onReferent command => exact command.ends_spares h
  | onHandle command => exact command.ends_spares h
  | change command => exact command.ends_spares h
  | look command =>
    refine (command.ends_look.imp ?_).cut_imp fun _ _ _ => trivial
    rintro _ after (rfl | ⟨referent, hmem, value, rfl⟩)
    · exact .refl hc
    · exact .updateReferent hc (LookCommand.unobtrusive_value value)
  | onSet command => exact command.ends_spares h
  | call command => cases hcall
  | unreadable preconditions => exact Command.ends_run_unreadable fun _ => trivial

/-- As a step, a command that calls no referent directly spares all that it does not reach. -/
theorem Session.Holding.spares_of_step {config : Config} {session after : Session}
    {command : Command} {shown : Step} (h : session.Sound config) (hcall : command.isCall = false)
    (hstep : session.step config (command.run config) = .ok (shown, after)) :
    session.clearEvents.store.Spares config (session.reach command) after.store := by
  have hsame : session.clearEvents.store.Spares config (session.reach command)
      session.clearEvents.store := .refl h.clearEvents.consistent
  have hends := @step_of_ends config _ _ _ _ ((command.ends_spares h.clearEvents hcall).and
    (command.ends_run h.clearEvents hcall))
  rw [hstep] at hends
  rcases hends with ⟨answer, -, hspares, -⟩ | ⟨refusal, -, -, hcut⟩ | ⟨cause, -, -, hcut⟩
  · exact hspares
  · rcases hcut with rfl | ⟨referent, -, -, hviolates⟩
    · exact hsame
    · exact hviolates.elim
  · rcases hcut with ⟨rfl, -⟩ | ⟨referent, -, -, hviolates⟩
    · exact hsame
    · exact hviolates.elim

end CountedHandles
