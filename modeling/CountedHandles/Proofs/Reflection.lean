import CountedHandles.Proofs.Mirroring

/-!
# Mirrored commands

On a sound session every command that calls no referent directly and asks for no diagnostics is
mirrored by itself in the configuration that has to do with a view. So such commands answer, panic
and end runs alike whatever the diagnostics.
-/

namespace CountedHandles

/-- Whether what a command comes to depends on the diagnostics that are built in. -/
def Command.asksDiagnostics : Command → Bool
  | .onReferent (.roster _) => true
  | .onReferent (.provenances _) => true
  | .onReferent (.printCounter _) => true
  | .look (.serial _) => true
  | .look .dump => true
  | .unreadable preconditions => preconditions.contains .tracking
  | _ => false

open Turn Session

variable {view : View} {config : Config} {session : Session} {store : Store} {s : Serial}
  {name : String}

namespace HandleCommand

/-- A new handle is created and kept alike. -/
theorem mirrors_keepNew {creation mirror : Operation Serial} (h : session.store.Consistent config)
    (hrun : creation session.store = .ok s store)
    (hcourse : Store.Course config session.store store)
    (hmirror : Operation.Mirrors view creation mirror session.store) :
    Mirrors view (keepNew config name creation) (keepNew (view.config config) name mirror)
      session := by
  apply mirrors_bind (mirrors_perform hmirror)
  apply ends_perform hrun
  exact mirrors_bind_pure (mirrors_keep (h.course hcourse))

/-- A handle from an address is created and kept alike, or refused alike. -/
theorem mirrors_keepNew_ofAddress {form : Form} {scheme : Scheme} {address : Address}
    (h : session.store.Consistent config)
    (hsettled : ∀ slot, Slot.ofAddress scheme address = .ok slot →
      (session.store.nextHandle form slot).Settled session.store) :
    Mirrors view (keepNew config name (Handle.ofAddress config form scheme address))
      (keepNew (view.config config) name
        (Handle.ofAddress (view.config config) form scheme address)) session := by
  cases hslot : Slot.ofAddress scheme address with
  | ok slot =>
    exact mirrors_keepNew h (Handle.run_ofAddress h hslot)
      (.single (.create (hsettled slot hslot) (Or.inl rfl))) (Handle.mirrors_ofAddress h)
  | error cause =>
    exact mirrors_bind (mirrors_perform (Handle.mirrors_ofAddress h))
      (ends_perform_of_error (Handle.run_ofAddress_of_error hslot) trivial)

/-- A command that creates, moves or drops a handle is mirrored. -/
theorem mirrors_run (command : HandleCommand) (h : session.Sound config) :
    Mirrors view (command.run config) (command.run (view.config config)) session := by
  have hc := h.consistent
  have hw := hc.toWellFormed
  cases command with
  | null name scheme =>
    exact mirrors_keepNew hc Handle.run_null
      (.single (.create (Store.settled_null _) (Or.inl rfl))) Handle.mirrors_null
  | deleted name scheme =>
    exact mirrors_keepNew hc Handle.run_deleted
      (.single (.create (Store.settled_deleted _) (Or.inl rfl))) Handle.mirrors_deleted
  | hold form name scheme referentName =>
    apply mirrors_bind_referent
    intro referent hfound
    rw [View.address_referent]
    apply mirrors_keepNew_ofAddress hc
    intro slot hslot
    exact Store.settled_of_site (Store.mem_sites_of_referent? hfound) hslot
  | holdAddress form name scheme place =>
    apply mirrors_bind_resolveFor
    intro address hallows
    apply mirrors_keepNew_ofAddress hc
    intro slot hslot
    exact Store.settled_of_allows hallows hslot
  | copy name source =>
    apply mirrors_bind_handle
    intro handle _ hstored
    exact mirrors_keepNew hc (Handle.run_copyAs hc)
      (.single (.create (hw.settled_copy hstored (Or.inl rfl))
        (Or.inr ⟨handle, Store.mem_of_handle? hstored, rfl, rfl⟩))) (Handle.mirrors_copyAs hc)
  | copyReference name source =>
    apply mirrors_bind_reference
    intro handle _ hstored _
    exact mirrors_keepNew hc (Handle.run_copyAs hc)
      (.single (.create (hw.settled_copy hstored (Or.inr rfl))
        (Or.inr ⟨handle, Store.mem_of_handle? hstored, rfl, rfl⟩))) (Handle.mirrors_copyAs hc)
  | moveOut name source =>
    apply mirrors_bind_pointer
    intro handle _ hstored hform
    exact mirrors_keepNew hc (Handle.run_moveOut hc hstored)
      (.movedOut hw hstored hform) (Handle.mirrors_moveOut hc hstored)
  | toReference name source =>
    apply mirrors_bind_pointer
    intro handle _ hstored hform
    have hmirror := @Handle.mirrors_toReference view _ _ _ hc hstored hform
    by_cases hlive : handle.address ∈ session.store.sites
    · exact mirrors_keepNew hc (Handle.run_toReference hc hstored hform hlive)
        (.single (.makeReference hstored hform hlive)) hmirror
    · exact mirrors_bind (mirrors_perform hmirror)
        (ends_perform_of_error (Handle.run_toReference_of_vacant hc hstored hlive) trivial)
  | toPointer name source =>
    apply mirrors_bind_reference
    intro handle _ hstored hform
    refine mirrors_bind_modify rfl ?_
    exact mirrors_keepNew hc (Handle.run_toPointer hc hstored)
      (.single (.makePointer hstored hform)) (Handle.mirrors_toPointer hc hstored)
  | rename name source =>
    apply mirrors_bind_handle
    intro handle _ _
    refine mirrors_bind_modify rfl ?_
    exact mirrors_bind_pure (mirrors_keep hc)
  | drop name =>
    apply mirrors_bind_handle
    intro handle _ _
    refine mirrors_bind_modify rfl ?_
    exact mirrors_bind_pure (mirrors_perform (Handle.mirrors_release hc))

end HandleCommand

namespace ChangeCommand

variable {first second : String}

/-- An operation of its own is mirrored as a turn if it is mirrored. -/
theorem mirrors_act {operation mirror : Operation Unit}
    (h : Operation.Mirrors view operation mirror session.store) :
    Mirrors view (act operation) (act mirror) session :=
  mirrors_bind_pure (mirrors_perform h)

/-- A sequence that starts with the look-up of two handles of one type is mirrored. -/
theorem mirrors_bind_sameType {pointers : Bool} {next next' : Handle × Handle → Turn Answer}
    (h : ∀ a b, session.serial? first = some a.serial →
      session.store.handle? a.serial = some a → session.serial? second = some b.serial →
      session.store.handle? b.serial = some b → first ≠ second → a.form = b.form →
      a.scheme = b.scheme → (pointers = true → a.form = .pointer) →
      Mirrors view (next (a, b)) (next' (a, b)) session) :
    Mirrors view (sameType first second pointers >>= next)
      (sameType first second pointers >>= next') session := by
  apply mirrors_bind ?_ (ends_sameType h fun _ => trivial)
  apply mirrors_bind mirrors_distinct
  exact ends_of_forall (fun _ _ => mirrors_bind_pure mirrors_require) fun _ _ => trivial

/-- A bucket is replaced alike, or refused alike. -/
theorem mirrors_runReplaceBucket (h : session.Sound config) :
    Mirrors view (runReplaceBucket config name) (runReplaceBucket (view.config config) name)
      session := by
  apply mirrors_bind_pointer
  intro doomed _ _ _
  apply mirrors_bind (mirrors_perform Handle.mirrors_requireNotDeleted)
  have hguard := Handle.run_requireNotDeleted doomed session.store
  split at hguard
  · exact ends_perform_of_error hguard trivial
  · have hcreation := @Handle.run_null config session.store doomed.scheme
    apply ends_perform hguard
    apply mirrors_bind (mirrors_perform Handle.mirrors_null)
    apply ends_perform hcreation
    have hcreated : Store.Passage config [] [session.store.nextSerial] session.store _ :=
      .created (Store.settled_null doomed.scheme) (Or.inl rfl)
    have hleads : session.Leads config [.name name] ([] ++ []) session := h.leads
    have hfresh := hleads.passage hcreated
    apply mirrors_bind (mirrors_keep hfresh.holding.consistent)
    refine (hfresh.keep List.mem_cons_self).imp ?_
    rintro _ kept ⟨hkept, -, -⟩
    apply mirrors_bind_pointer
    intro bucket _ hbucket hform
    exact mirrors_act (Handle.mirrors_markDeleted hkept.holding.consistent hbucket hform)

/-- A command that changes handles is mirrored. -/
theorem mirrors_run (command : ChangeCommand) (h : session.Sound config) :
    Mirrors view (command.run config) (command.run (view.config config)) session := by
  have hc := h.consistent
  cases command with
  | assignPointer name source =>
    apply mirrors_bind_sameType
    intro a b _ ha _ hb _ hform _ _
    exact mirrors_act (Handle.mirrors_assignCopy hc ha hb hform.symm)
  | assignMove name source =>
    apply mirrors_bind_sameType
    intro a b ha hfirst hb hsecond hne hform _ hpointer
    exact mirrors_act (Handle.mirrors_assignMove hc hfirst hsecond (hpointer rfl)
      (hform.symm.trans (hpointer rfl)) (h.serial?_ne ha hb hne))
  | assignHandle name source =>
    apply mirrors_bind_sameType
    intro a b _ ha _ hb _ hform _ _
    exact mirrors_act (Handle.mirrors_assignCopy hc ha hb hform.symm)
  | swap name other =>
    apply mirrors_bind_sameType
    intro a b _ ha _ hb _ _ _ _
    exact mirrors_act (Handle.mirrors_swap hc ha hb)
  | pointAt name referentName =>
    apply mirrors_bind_referent
    intro referent hfound
    rw [View.address_referent]
    apply mirrors_bind_handle
    intro handle _ hstored
    apply mirrors_act (Handle.mirrors_pointAt hc hstored ?_)
    intro slot hslot
    exact Store.settled_of_site (Store.mem_sites_of_referent? hfound) hslot
  | pointAtAddress name place =>
    apply mirrors_bind_handle
    intro handle _ hstored
    apply mirrors_bind_resolveFor
    intro address hallows
    apply mirrors_act (Handle.mirrors_pointAt hc hstored ?_)
    intro slot hslot
    exact Store.settled_of_allows hallows hslot
  | clear name =>
    apply mirrors_bind_pointer
    intro handle _ hstored hform
    exact mirrors_act (Handle.mirrors_clear hc hstored hform)
  | markDeleted name =>
    apply mirrors_bind_pointer
    intro handle _ hstored hform
    exact mirrors_act (Handle.mirrors_markDeleted hc hstored hform)
  | vacateBucket name =>
    apply mirrors_bind_pointer
    intro handle _ hstored hform
    exact mirrors_act (Handle.mirrors_vacateBucket hc hstored hform)
  | replaceBucket name => exact mirrors_runReplaceBucket h

end ChangeCommand

namespace SetCommand

variable {pointer : Handle} {scheme : Scheme}

theorem members_session : (view.session session).members scheme = session.members scheme := by
  cases scheme <;> rfl

/-- A sequence that starts with the look-up of an equal member is mirrored. -/
theorem mirrors_bind_equalMember? {next next' : Option Serial → Turn Answer}
    (h : ∀ member?, Mirrors view (next member?) (next' member?) session) :
    Mirrors view (equalMember? pointer >>= next) (equalMember? pointer >>= next') session := by
  apply mirrors_bind ?_ (ends_equalMember? fun member? _ => h member?)
  apply mirrors_bind_get
  rw [members_session]
  exact mirrors_pure

/-- A set is changed alike. -/
theorem session_setMembers {members : List Serial} :
    (view.session session).setMembers members scheme =
      view.session (session.setMembers members scheme) := by
  cases scheme <;> rfl

theorem mirrors_addMember : Mirrors view (addMember pointer) (addMember pointer) session := by
  apply mirrors_modify
  rw [members_session, session_setMembers]

/-- A sequence that starts with a member that leaves its set is mirrored. -/
theorem mirrors_bind_removeMember {next next' : Unit → Turn Answer}
    (h : Mirrors view (next ()) (next' ()) (session.setMembers
      ((session.members scheme).filter fun member => member != s) scheme)) :
    Mirrors view (removeMember scheme s >>= next) (removeMember scheme s >>= next') session := by
  refine mirrors_bind_modify ?_ h
  rw [members_session, session_setMembers]

/-- A command on sets is mirrored. -/
theorem mirrors_run (command : SetCommand) (h : session.Sound config) :
    Mirrors view (command.run config) (command.run (view.config config)) session := by
  have hc := h.consistent
  have hset {members : List Serial} {scheme : Scheme} {other : Session}
      (hother : other.store = session.store) :
      (other.setMembers members scheme).store.Consistent config := by
    rw [store_setMembers, hother]
    exact hc
  cases command with
  | insert name =>
    apply mirrors_bind_pointer
    intro pointer _ _ _
    apply mirrors_bind_equalMember?
    intro member?
    refine mirrors_bind_modify rfl ?_
    cases member? with
    | none => exact mirrors_bind_pure mirrors_addMember
    | some member => exact mirrors_bind_pure (mirrors_perform (Handle.mirrors_release hc))
  | replace old name =>
    apply mirrors_bind_pointer
    intro pointer _ _ _
    apply mirrors_bind_equalMember?
    intro member?
    refine mirrors_bind_modify rfl ?_
    cases member? with
    | none => exact mirrors_bind_pure mirrors_addMember
    | some member =>
      apply mirrors_bind_removeMember
      apply mirrors_bind mirrors_addMember
      apply ends_modify
      exact mirrors_bind_pure (mirrors_keep (hset (store_setMembers ..)))
  | contains name =>
    apply mirrors_bind_pointer
    intro pointer _ _ _
    exact mirrors_bind_equalMember? fun _ => mirrors_pure
  | remove name =>
    apply mirrors_bind_pointer
    intro pointer _ _ _
    apply mirrors_bind_equalMember?
    intro member?
    cases member? with
    | none => exact mirrors_pure
    | some member =>
      apply mirrors_bind_removeMember
      exact mirrors_bind_pure (mirrors_perform (Handle.mirrors_release (hset rfl)))
  | take old name =>
    apply mirrors_bind_pointer
    intro pointer _ _ _
    apply mirrors_bind_equalMember?
    intro member?
    cases member? with
    | none => exact mirrors_pure
    | some member =>
      apply mirrors_bind_removeMember
      exact mirrors_bind_pure (mirrors_keep (hset rfl))

end SetCommand

namespace ReferentCommand

variable {handleName : String} {index : Nat}

/-- A referent is created alike. -/
theorem mirrors_create {value : Int64} {address? : Option Address} :
    Mirrors view (runCreate config name value address?)
      (runCreate (view.config config) name value address?) session := by
  have hfree : ∀ address, ((view.session session).store.referentAt? address).isNone =
      (session.store.referentAt? address).isNone := by
    intro address
    rw [View.session, View.referentAt?_store, Option.isNone_map]
  apply mirrors_bind_require
  intro _
  apply mirrors_bind_get
  apply mirrors_bind_require
  intro _
  simp only [View.offers_config, hfree]
  apply mirrors_bind_require
  intro _
  apply mirrors_bind_pure
  apply mirrors_set
  simp only [View.session, View.store_addReferent]

/-- A referent is destroyed alike, or outlived alike. -/
theorem mirrors_destroy (h : session.Sound config) :
    Mirrors view (runDestroy config name) (runDestroy (view.config config) name) session := by
  apply mirrors_bind_referent
  intro referent hfound
  apply mirrors_bind_get
  rw [View.address_referent, View.count_referent]
  apply mirrors_bind_require
  intro _
  exact mirrors_bind_pure (mirrors_perform (Referent.mirrors_destroy h.consistent))

/-- A change of links is seen as the same change. -/
theorem mirrors_updateLinks (change : List Serial → List Serial) :
    Mirrors view
      (modify fun session => { session with
        store := session.store.updateReferent name fun owner =>
          { owner with links := change owner.links } } : Turn Unit)
      (modify fun session => { session with
        store := session.store.updateReferent name fun owner =>
          { owner with links := change owner.links } }) session := by
  apply mirrors_modify
  simp only [View.session]
  rw [View.store_updateReferent]
  intro referent
  cases view <;> rfl

/-- A command on referents is mirrored unless it asks for diagnostics. -/
theorem mirrors_run (command : ReferentCommand) (h : session.Sound config)
    (hplain : (Command.onReferent command).asksDiagnostics = false) :
    Mirrors view (command.run config) (command.run (view.config config)) session := by
  have hc := h.consistent
  cases command with
  | create name value address? => exact mirrors_create
  | destroy name => exact mirrors_destroy h
  | roster name => cases hplain
  | provenances name => cases hplain
  | printCounter name => cases hplain
  | attach name handleName =>
    apply mirrors_bind_referent
    intro referent hfound
    rw [View.name_referent]
    apply mirrors_bind_handle
    intro handle _ _
    refine mirrors_bind_modify rfl ?_
    exact mirrors_bind_pure (mirrors_updateLinks fun links => links ++ [handle.serial])
  | detach handleName name index =>
    apply mirrors_bind_referent
    intro referent hfound
    rw [View.links_referent, View.name_referent]
    cases referent.links[index]? with
    | none => exact mirrors_refuse
    | some serial =>
      apply mirrors_bind (mirrors_updateLinks fun links => links.eraseIdx index)
      apply ends_modify
      have hchange := unobtrusive_links fun links => links.eraseIdx index
      exact mirrors_bind_pure (mirrors_keep (hc.course (.single (.updateReferent hchange))))

end ReferentCommand

namespace LookCommand

/-- The values along first links are seen in every view. -/
theorem pathValues_store {limit : Nat} :
    pathValues (view.store store) limit s = pathValues store limit s := by
  induction limit generalizing s with
  | zero => rfl
  | succ limit ih =>
    simp only [pathValues, View.handle?_store]
    cases store.handle? s with
    | none => rfl
    | some handle =>
      rw [Option.bind_some, Option.bind_some, View.targetOf?_store]
      cases store.targetOf? handle with
      | none => rfl
      | some referent =>
        simp only [Option.map_some, View.value_referent, View.links_referent]
        cases referent.links with
        | nil => rfl
        | cons next _ => exact congrArg (referent.value :: ·) ih

theorem targetOf?_session {handle : Handle} : (view.session session).store.targetOf? handle =
    (session.store.targetOf? handle).map view.referent :=
  View.targetOf?_store

/-- A handle is looked at alike. -/
theorem mirrors_look {question : Handle → Answer} :
    Mirrors view (handle name >>= fun handle => pure (question handle))
      (handle name >>= fun handle => pure (question handle)) session :=
  mirrors_bind_handle fun _ _ _ => mirrors_pure

/-- A pointer is looked at alike. -/
theorem mirrors_lookPointer {question : Handle → Answer} :
    Mirrors view (pointer name >>= fun handle => pure (question handle))
      (pointer name >>= fun handle => pure (question handle)) session :=
  mirrors_bind_pointer fun _ _ _ _ => mirrors_pure

theorem mirrors_requireAccess {form : Form} {access : Access} :
    Mirrors view (requireAccess form access) (requireAccess form access) session := by
  cases access with
  | optional => exact mirrors_require
  | pinned => exact mirrors_pure
  | direct => exact mirrors_require

/-- The value of the referent of a handle is read alike. -/
theorem mirrors_readTarget {handle : Handle} :
    Mirrors view
      (get >>= fun session : Session => pure ((session.store.targetOf? handle).elim
        Answer.nothing fun referent => .value referent.value))
      (get >>= fun session : Session => pure ((session.store.targetOf? handle).elim
        Answer.nothing fun referent => .value referent.value)) session := by
  apply mirrors_bind_get
  rw [targetOf?_session]
  cases session.store.targetOf? handle with
  | none => exact mirrors_pure
  | some referent =>
    rw [Option.map_some, Option.elim_some, Option.elim_some, View.value_referent]
    exact mirrors_pure

/-- A command that looks at handles is mirrored unless it asks for diagnostics. -/
theorem mirrors_run (command : LookCommand)
    (hplain : (Command.look command).asksDiagnostics = false) :
    Mirrors view (command.run config) (command.run (view.config config)) session := by
  cases command with
  | compare first second differ =>
    apply mirrors_bind_handle
    intro handle _ _
    exact mirrors_look
  | compareAddress name place =>
    exact mirrors_bind mirrors_resolve (ends_of_forall (fun _ _ => mirrors_look) fun _ _ => trivial)
  | hash name => exact mirrors_look
  | print name style => exact mirrors_look
  | address name => exact mirrors_look
  | pointerAddress name => exact mirrors_lookPointer
  | isNull name => exact mirrors_lookPointer
  | isDeleted name => exact mirrors_lookPointer
  | serial name => cases hplain
  | read name access =>
    apply mirrors_bind_handle
    intro handle _ _
    apply mirrors_bind mirrors_requireAccess
    exact ends_of_forall (fun _ _ => mirrors_readTarget) fun _ _ => trivial
  | write name value =>
    apply mirrors_bind_handle
    intro handle _ _
    apply mirrors_bind_get
    rw [targetOf?_session]
    cases session.store.targetOf? handle with
    | none => exact mirrors_pure
    | some referent =>
      rw [Option.map_some]
      simp only [View.value_referent, View.name_referent]
      apply mirrors_bind_pure
      apply mirrors_modify
      simp only [View.session]
      rw [View.store_updateReferent]
      intro target
      cases view <;> rfl
  | path name =>
    apply mirrors_bind_handle
    intro handle _ _
    apply mirrors_bind_get
    have hseen : pathValues (view.session session).store pathLimit handle.serial =
        pathValues session.store pathLimit handle.serial := pathValues_store
    rw [hseen]
    exact mirrors_pure
  | dump => cases hplain

end LookCommand

namespace Command

/-- A precondition on handles and referents holds alike or is refused alike. -/
theorem mirrors_establish {precondition : Precondition} (hplain : precondition ≠ .tracking) :
    Mirrors view (establish config precondition) (establish (view.config config) precondition)
      session := by
  cases precondition with
  | tracking => exact absurd rfl hplain
  | place place => exact mirrors_bind_pure mirrors_resolve
  | handle name => exact mirrors_bind_pure mirrors_handle
  | pointer name => exact mirrors_bind_pointer fun _ _ _ _ => mirrors_pure
  | reference name => exact mirrors_bind_reference fun _ _ _ _ => mirrors_pure

/-- A command that cannot be read is refused alike unless it asks for tracking. -/
theorem mirrors_run_unreadable {preconditions : List Precondition}
    (hplain : .tracking ∉ preconditions) :
    Mirrors view ((Command.unreadable preconditions).run config)
      ((Command.unreadable preconditions).run (view.config config)) session := by
  have hall : ∀ session, Mirrors view (preconditions.forM (establish config))
      (preconditions.forM (establish (view.config config))) session := by
    induction preconditions with
    | nil => exact fun _ => mirrors_pure
    | cons precondition rest ih =>
      intro session
      rw [List.mem_cons, not_or] at hplain
      apply mirrors_bind (mirrors_establish (Ne.symm hplain.1))
      exact ends_of_forall (fun _ after => ih hplain.2 after) fun _ _ => trivial
  apply mirrors_bind (hall session)
  exact ends_of_forall (fun _ _ => mirrors_refuse) fun _ _ => trivial

/-- A command that calls no referent directly is mirrored unless it asks for diagnostics. -/
theorem mirrors_run (command : Command) (h : session.Sound config)
    (hcall : command.isCall = false) (hplain : command.asksDiagnostics = false) :
    Mirrors view (command.run config) (command.run (view.config config)) session := by
  cases command with
  | onReferent command => exact command.mirrors_run h hplain
  | onHandle command => exact command.mirrors_run h
  | change command => exact command.mirrors_run h
  | look command => exact command.mirrors_run hplain
  | onSet command => exact command.mirrors_run h
  | call command => cases hcall
  | unreadable preconditions =>
    apply mirrors_run_unreadable
    simpa [asksDiagnostics] using hplain

end Command

end CountedHandles
