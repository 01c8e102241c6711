import CountedHandles.Proofs.Commands
import CountedHandles.Proofs.Deeds

/-!
# What commands do

Every command that calls no referent directly does a single deed, whatever handle it drops in the
end to make room for another one. Only four commands enter a new handle otherwise than as having
taken over from another: two create one directly on a referent and two copy one. What they enter is
known from the names that the command gives.
-/

namespace CountedHandles

open Turn Session

/-- The name under which a command keeps a handle that it creates, on a referent if it names no
other handle, and otherwise as a copy of that handle. -/
def Command.introduces? : Command → Option (String × Option String)
  | .onHandle (.hold _ name _ _) => some (name, none)
  | .onHandle (.holdAddress _ name _ _) => some (name, none)
  | .onHandle (.copy name source) => some (name, some source)
  | .onHandle (.copyReference name source) => some (name, some source)
  | _ => none

/-- How a handle is entered that is created on a named referent at an address: directly, or as a
copy of a named handle that holds the referent. -/
def Session.Introduces (session : Session) (name : String) (address : Address) :
    Option String → Provenance → Prop
  | none, origin => origin = .created
  | some source, origin => ∃ other, session.serial? source = some other ∧
      session.store.Holds other address ∧ session.store.HasAt name address ∧
        origin = .copied other

/-- How a command enters a new handle that holds a named referent at an address when the command is
done. -/
def Command.Brings (before after : Session) (command : Command) (name : String) (address : Address)
    (s : Serial) (origin : Provenance) : Prop :=
  match command.introduces? with
  | some (keeper, source?) =>
    after.serial? keeper = some s ∧ before.Introduces name address source? origin
  | none => Store.TookOver name address s origin

/-- What a command does between two sessions is a deed on which new handles are entered as the
command tells. -/
def Command.Does (config : Config) (command : Command) (before after : Session) : Prop :=
  Store.Deed config (command.Brings before after) before.store after.store

variable {config : Config} {session : Session} {name : String} {s : Serial} {store : Store}
  {given : String → Address → Serial → Provenance → Prop}

/-- A command that introduces no handle does any deed on which new handles take over. -/
theorem Command.Does.of_deed {command : Command} {before after : Session}
    (h : Store.Deed config Store.TookOver before.store after.store)
    (hnone : command.introduces? = none) : command.Does config before after :=
  h.imp fun _ _ _ _ hentry => by rwa [Brings, hnone]

/-! ## Turns -/

/-- A handle is kept under a name, and what happens to the store is at most that another handle
goes away. -/
theorem Turn.ends_keep (h : session.store.Consistent config) :
    (keep config name s).Ends session
      (fun _ after => after.serial? name = some s ∧ (after.store = session.store ∨
        ∃ old, session.serial? name = some old ∧
          after.store = session.store.released config old)) fun _ _ => True := by
  refine ends_bind (ends_get (ends_bind (ends_modify ?_)))
  cases hold : session.serial? name with
  | none => exact ⟨by simp, Or.inl rfl⟩
  | some old => exact ends_perform (Handle.run_release h old) ⟨by simp, Or.inr ⟨old, rfl, rfl⟩⟩

/-- What happens to the store when a handle is kept is a decline. -/
theorem Turn.ends_keep_decline (h : session.store.Consistent config) :
    (keep config name s).Ends session
      (fun _ after => after.serial? name = some s ∧
        Store.Decline config session.store after.store) fun _ _ => True := by
  refine (ends_keep h).imp ?_
  rintro _ after ⟨hserial, hstore | ⟨old, -, hstore⟩⟩
  · exact ⟨hserial, hstore ▸ .refl⟩
  · exact ⟨hserial, hstore ▸ .released⟩

namespace HandleCommand

/-- A new handle that is kept under a name concludes the deed of its creation. -/
theorem ends_keepNew {creation : Operation Serial} (hlists : config.listsHolders = true)
    (hrun : creation session.store = .ok s store)
    (hdeed : Store.Deed config given session.store store) :
    (keepNew config name creation).Ends session
      (fun _ after => after.serial? name = some s ∧
        Store.Deed config given session.store after.store) fun _ _ => True := by
  refine ends_bind (ends_perform hrun (ends_bind ((ends_keep_decline hdeed.consistent).imp ?_)))
  rintro _ after ⟨hserial, hdecline⟩
  exact ends_pure ⟨hserial, hdeed.decline hlists hdecline⟩

/-- A handle that is created and kept under a name is introduced. -/
theorem ends_introduce {command : Command} {source? : Option String} {form : Form} {slot : Slot}
    {provenance : Provenance} {creation : Operation Serial}
    (h : session.store.Consistent config) (hlists : config.listsHolders = true)
    (hmoments : session.store.moments = [])
    (hcommand : command.introduces? = some (name, source?))
    (hintroduces : ∀ referentName, session.store.HasAt referentName slot.address →
      session.Introduces referentName slot.address source? provenance)
    (hrun : creation session.store =
      .ok session.store.nextSerial (session.store.created config form slot provenance))
    (hsettled : (session.store.nextHandle form slot).Settled session.store)
    (hprovenance : provenance = .created ∨ ∃ source ∈ session.store.handles,
      source.slot = slot ∧ provenance = .copied source.serial) :
    (keepNew config name creation).Ends session (fun _ after => command.Does config session after)
      fun _ _ => True := by
  refine (ends_keepNew hlists hrun (.created h hlists hmoments hsettled hprovenance)).imp ?_
  rintro _ after ⟨hserial, hdeed⟩
  refine hdeed.imp ?_
  rintro referentName _ _ _ ⟨rfl, rfl, hlies, rfl⟩
  rw [Command.Brings, hcommand]
  exact ⟨hserial, hintroduces referentName hlies⟩

/-- A command that creates, moves or drops a handle does a deed. -/
theorem ends_does (command : HandleCommand) (h : session.Sound config)
    (hlists : config.listsHolders = true) (hmoments : session.store.moments = []) :
    (command.run config).Ends session
      (fun _ after => (Command.onHandle command).Does config session after)
      fun _ _ => True := by
  have hc := h.consistent
  have hw := hc.toWellFormed
  have hrefuse : ∀ _ : Refusal, True := fun _ => trivial
  have hdeclines {store : Store} (hdecline : Store.Decline config session.store store) :
      Store.Deed config Store.TookOver session.store store :=
    .of_decline hc hlists hmoments hdecline
  cases command with
  | null name scheme =>
    refine (ends_keepNew hlists Handle.run_null
      (hdeclines (.created rfl (Slot.target?_null _)))).imp ?_
    exact fun _ after hdone => .of_deed hdone.2 rfl
  | deleted name scheme =>
    refine (ends_keepNew hlists Handle.run_deleted
      (hdeclines (.created rfl (Slot.target?_deleted _)))).imp ?_
    exact fun _ after hdone => .of_deed hdone.2 rfl
  | hold form name scheme referentName =>
    refine ends_bind (ends_referent (fun referent hfound => ?_) hrefuse)
    have hsite := Store.mem_sites_of_referent? hfound
    obtain ⟨slot, hslot⟩ := Slot.exists_ofAddress_of_isSite (hw.isSite _ hsite) scheme
    exact ends_introduce hc hlists hmoments rfl (fun _ _ => rfl)
      (Handle.run_ofAddress hc hslot) (Store.settled_of_site hsite hslot) (Or.inl rfl)
  | holdAddress form name scheme place =>
    refine ends_bind (ends_resolveFor (fun address hgiven hallows => ?_) hrefuse)
    cases hslot : Slot.ofAddress scheme address with
    | ok slot =>
      exact ends_introduce hc hlists hmoments rfl (fun _ _ => rfl)
        (Handle.run_ofAddress hc hslot) (Store.settled_of_allows hallows hslot) (Or.inl rfl)
    | error cause =>
      exact ends_bind (ends_perform_of_error (Handle.run_ofAddress_of_error hslot) trivial)
  | copy name source =>
    refine ends_bind (ends_handle (fun handle hsource hstored => ?_) hrefuse)
    have hheld : session.store.Holds handle.serial handle.address :=
      ⟨handle, Store.mem_of_handle? hstored, rfl, rfl⟩
    exact ends_introduce hc hlists hmoments rfl
      (fun _ hlies => ⟨handle.serial, hsource, hheld, hlies, rfl⟩)
      (Handle.run_copyAs hc) (hw.settled_copy hstored (Or.inl rfl))
      (Or.inr ⟨handle, Store.mem_of_handle? hstored, rfl, rfl⟩)
  | copyReference name source =>
    refine ends_bind (ends_reference (fun handle hsource hstored _ => ?_) hrefuse)
    have hheld : session.store.Holds handle.serial handle.address :=
      ⟨handle, Store.mem_of_handle? hstored, rfl, rfl⟩
    exact ends_introduce hc hlists hmoments rfl
      (fun _ hlies => ⟨handle.serial, hsource, hheld, hlies, rfl⟩)
      (Handle.run_copyAs hc) (hw.settled_copy hstored (Or.inr rfl))
      (Or.inr ⟨handle, Store.mem_of_handle? hstored, rfl, rfl⟩)
  | moveOut name source =>
    refine ends_bind (ends_pointer (fun handle _ hstored hform => ?_) hrefuse)
    exact (ends_keepNew hlists (Handle.run_moveOut hc hstored)
      (.movedOut hc hlists hmoments hstored hform)).imp fun _ _ hdone => .of_deed hdone.2 rfl
  | toReference name source =>
    refine ends_bind (ends_pointer (fun handle _ hstored hform => ?_) hrefuse)
    by_cases hlive : handle.address ∈ session.store.sites
    · exact (ends_keepNew hlists (Handle.run_toReference hc hstored hform hlive)
        (.madeReference hc hlists hmoments hstored hform hlive)).imp
        fun _ _ hdone => .of_deed hdone.2 rfl
    · exact ends_bind (ends_perform_of_error
        (Handle.run_toReference_of_vacant hc hstored hlive) trivial)
  | toPointer name source =>
    refine ends_bind (ends_reference (fun handle _ hstored hform => ?_) hrefuse)
    refine ends_bind (ends_modify ?_)
    have hrun : Handle.toPointer config handle (session.freeName source).store = .ok _ _ :=
      Handle.run_toPointer hc hstored
    exact (ends_keepNew hlists hrun (.madePointer hc hlists hmoments hstored hform)).imp
      fun _ _ hdone => .of_deed hdone.2 rfl
  | rename name source =>
    refine ends_bind (ends_handle (fun handle _ _ => ?_) hrefuse)
    have hfreed : (session.freeName source).store.Consistent config := hc
    refine ends_bind (ends_modify (ends_bind ((ends_keep_decline hfreed).imp ?_)))
    exact fun _ _ hdone => ends_pure (.of_deed (hdeclines hdone.2) rfl)
  | drop name =>
    refine ends_bind (ends_handle (fun handle _ _ => ?_) hrefuse)
    have hrun : Handle.release config handle.serial (session.freeName name).store = .ok _ _ :=
      Handle.run_release hc handle.serial
    exact ends_bind (ends_modify (ends_bind (ends_perform hrun
      (ends_pure (.of_deed (hdeclines .released) rfl)))))

end HandleCommand

namespace ChangeCommand

/-- The replacement of a bucket is a decline: the bucket was there before and holds nothing in the
end. -/
theorem ends_runReplaceBucket_decline (h : session.Sound config) :
    (runReplaceBucket config name).Ends session
      (fun _ after => Store.Decline config session.store after.store) fun _ _ => True := by
  have hc := h.consistent
  refine ends_bind (ends_pointer (fun doomed hserial hstored hform => ?_) fun _ => trivial)
  have hguard := Handle.run_requireNotDeleted doomed session.store
  split at hguard
  · exact ends_bind (ends_perform_of_error hguard trivial)
  · have hcreation := @Handle.run_null config session.store doomed.scheme
    refine ends_bind (ends_perform hguard (ends_bind (ends_perform hcreation ?_)))
    have hw := hc.toWellFormed
    have hcreated : Store.Decline config session.store
        (session.store.created config .pointer (Slot.null doomed.scheme) .created) :=
      .created rfl (Slot.target?_null doomed.scheme)
    have hfresh := @Store.handle?_created_nextSerial config _ .pointer (Slot.null doomed.scheme)
      .created hw
    have hnull := @Store.Consistent.created_null config _ hc doomed.scheme
    refine ends_bind ((ends_keep hnull).imp ?_)
    rintro _ kept ⟨hkept, hstore⟩
    -- Only the doomed bucket can have gone, so that the new one is still there.
    have hbucket : kept.store.Consistent config ∧
        Store.Decline config session.store kept.store ∧
        kept.store.handle? session.store.nextSerial =
          some (session.store.nextHandle .pointer (Slot.null doomed.scheme)) := by
      rcases hstore with hsame | ⟨old, hold, hreleased⟩
      · rw [hsame]
        exact ⟨hnull, hcreated, hfresh⟩
      · obtain rfl : doomed.serial = old := Option.some.inj (hserial.symm.trans hold)
        rw [hreleased]
        exact ⟨(Store.Act.release doomed.serial).consistent hnull,
          hcreated.trans Store.Decline.released,
          (Store.handle?_released (hw.ne_nextSerial hstored).symm).trans hfresh⟩
    obtain ⟨hconsistent, hdecline, hfound⟩ := hbucket
    refine ends_bind (ends_pointer_of_found (by rw [handle?, hkept]; exact hfound) rfl ?_)
    refine ends_bind (ends_perform (Handle.run_markDeleted hconsistent hfound rfl) (ends_pure ?_))
    exact hdecline.trans (Store.Decline.renewed hconsistent hfound rfl (Slot.target?_null _)
      (Slot.scheme_deleted _) (Slot.target?_deleted _))

/-- A command that changes handles does a deed. -/
theorem ends_does (command : ChangeCommand) (h : session.Sound config)
    (hlists : config.listsHolders = true) (hmoments : session.store.moments = []) :
    (command.run config).Ends session
      (fun _ after => Store.Deed config Store.TookOver session.store after.store)
      fun _ _ => True := by
  by_cases hreplaces : ∃ name, command = .replaceBucket name
  · obtain ⟨name, rfl⟩ := hreplaces
    exact (ends_runReplaceBucket_decline h).imp fun _ _ hdecline =>
      .of_decline h.consistent hlists hmoments hdecline
  · refine ((command.ends_alter h (not_exists.mp hreplaces)).imp ?_).cut_imp fun _ _ _ => trivial
    rintro _ _ ⟨store, haltered, rfl⟩
    exact .altered h.consistent hlists hmoments haltered

end ChangeCommand

namespace SetCommand

/-- All that happens to the store in a command on sets is that a handle goes away. -/
theorem ends_decline (command : SetCommand) (h : session.Sound config) :
    (command.run config).Ends session
      (fun _ after => Store.Decline config session.store after.store) fun _ _ => True := by
  have hrefuse : ∀ _ : Refusal, True := fun _ => trivial
  have hrelease {between : Session} (hstore : between.store = session.store) (serial : Serial)
      (answer : Answer) :
      (do perform (Handle.release config serial); return answer : Turn Answer).Ends between
        (fun _ after => Store.Decline config session.store after.store) fun _ _ => True :=
    ends_bind (ends_perform (Handle.run_release (hstore ▸ h.consistent) serial)
      (ends_pure (hstore ▸ .released)))
  have hkeep {between : Session} (hstore : between.store = session.store) (name : String)
      (serial : Serial) (answer : Answer) :
      (do keep config name serial; return answer : Turn Answer).Ends between
        (fun _ after => Store.Decline config session.store after.store) fun _ _ => True :=
    ends_bind ((ends_keep_decline (hstore ▸ h.consistent)).imp fun _ _ hdone =>
      ends_pure (hstore ▸ hdone.2))
  have hsame {after : Session} (hstore : after.store = session.store) :
      Store.Decline config session.store after.store := hstore ▸ .refl
  cases command with
  | insert name =>
    refine ends_bind (ends_pointer (fun pointer _ _ _ => ?_) hrefuse)
    refine ends_bind (ends_equalMember? fun member? _ => ends_bind (ends_modify ?_))
    cases member? with
    | none => exact ends_bind (ends_modify (ends_pure (hsame store_setMembers)))
    | some member => exact @hrelease (session.freeName name) rfl pointer.serial _
  | replace old name =>
    refine ends_bind (ends_pointer (fun pointer _ _ _ => ?_) hrefuse)
    refine ends_bind (ends_equalMember? fun member? _ => ends_bind (ends_modify ?_))
    cases member? with
    | none => exact ends_bind (ends_modify (ends_pure (hsame store_setMembers)))
    | some member =>
      refine ends_bind (ends_modify (ends_bind (ends_modify (hkeep ?_ old member _))))
      rw [store_setMembers, store_setMembers]
      rfl
  | contains name =>
    refine ends_bind (ends_pointer (fun pointer _ _ _ => ?_) hrefuse)
    exact ends_bind (ends_equalMember? fun _ _ => ends_pure .refl)
  | remove name =>
    refine ends_bind (ends_pointer (fun pointer _ _ _ => ?_) hrefuse)
    refine ends_bind (ends_equalMember? fun member? _ => ?_)
    cases member? with
    | none => exact ends_pure .refl
    | some member => exact ends_bind (ends_modify (hrelease store_setMembers member _))
  | take old name =>
    refine ends_bind (ends_pointer (fun pointer _ _ _ => ?_) hrefuse)
    refine ends_bind (ends_equalMember? fun member? _ => ?_)
    cases member? with
    | none => exact ends_pure .refl
    | some member => exact ends_bind (ends_modify (hkeep store_setMembers old member _))

end SetCommand

namespace ReferentCommand

/-- All that happens to the handles in a command on referents is that links go away. -/
theorem ends_decline (command : ReferentCommand) (h : session.Sound config) :
    (command.run config).Ends session
      (fun _ after => Store.Decline config session.store after.store) fun _ _ => True := by
  have hrefuse : ∀ _ : Refusal, True := fun _ => trivial
  have hlinks (name : String) (change : List Serial → List Serial) :
      Store.Decline config session.store (session.store.updateReferent name fun owner =>
        { owner with links := change owner.links }) :=
    .of_handles (.updateReferent (unobtrusive_links change)) rfl
  cases command with
  | create name value address? =>
    refine (ends_create hrefuse).imp ?_
    rintro _ _ ⟨address, hsite, hfree, hname, rfl⟩
    exact .of_handles (.addReferent (fun hmem => hname (h.created_mem name hmem)) hfree hsite) rfl
  | destroy name =>
    cases hfound : session.store.referent? name with
    | none =>
      refine ends_bind (ends_referent (fun referent hsome => ?_) hrefuse)
      rw [hfound] at hsome
      cases hsome
    | some referent =>
      have hmem := List.mem_of_find?_eq_some hfound
      unfold Ends
      rw [run_destroy h hfound]
      cases hchecked : (session.store.checkpoint config referent).violationOf? referent.name with
      | none => exact .destroyed h.consistent hmem hchecked
      | some violation => trivial
  | roster name => exact ends_bind (ends_referent (fun _ _ => ends_pure .refl) hrefuse)
  | provenances name =>
    exact ends_bind (ends_require (fun _ => ends_bind (ends_referent (fun _ _ =>
      ends_pure .refl) hrefuse)) hrefuse)
  | printCounter name =>
    exact ends_bind (ends_referent (fun _ _ => ends_bind (ends_require (fun _ =>
      ends_pure .refl) hrefuse)) hrefuse)
  | attach name handleName =>
    refine ends_bind (ends_referent (fun referent _ => ?_) hrefuse)
    refine ends_bind (ends_handle (fun handle _ _ => ?_) hrefuse)
    exact ends_bind (ends_modify (ends_bind (ends_modify (ends_pure
      (hlinks referent.name fun links => links ++ [handle.serial])))))
  | detach handleName name index =>
    refine ends_bind (ends_referent (fun referent _ => ?_) hrefuse)
    cases hlink : referent.links[index]? with
    | none => exact ends_refuse trivial
    | some serial =>
      have hdetached := hlinks referent.name fun links => links.eraseIdx index
      refine ends_bind (ends_modify (ends_bind ((ends_keep_decline ?_).imp ?_)))
      · exact (Store.Act.updateReferent (unobtrusive_links fun links =>
          links.eraseIdx index)).consistent h.consistent
      · exact fun _ _ hdone => ends_pure (hdetached.trans hdone.2)

end ReferentCommand

namespace LookCommand

/-- No handle changes in a command that looks at handles. -/
theorem ends_decline (command : LookCommand) :
    (command.run config).Ends session
      (fun _ after => Store.Decline config session.store after.store) fun _ _ => True := by
  refine (command.ends_look.imp ?_).cut_imp fun _ _ _ => trivial
  rintro _ after (rfl | ⟨referent, -, value, rfl⟩)
  · exact .refl
  · exact .of_handles (.updateReferent (unobtrusive_value value)) rfl

end LookCommand

/-- A command that calls no referent directly does a deed. -/
theorem Command.ends_does (command : Command) (h : session.Sound config)
    (hcall : command.isCall = false) (hlists : config.listsHolders = true)
    (hmoments : session.store.moments = []) :
    (command.run config).Ends session (fun _ after => command.Does config session after)
      fun _ _ => True := by
  have hdeclines {after : Session}
      (hdecline : Store.Decline config session.store after.store) :
      Store.Deed config Store.TookOver session.store after.store :=
    .of_decline h.consistent hlists hmoments hdecline
  cases command with
  | onReferent command =>
    exact (command.ends_decline h).imp fun _ _ hdone => .of_deed (hdeclines hdone) rfl
  | onHandle command => exact command.ends_does h hlists hmoments
  | change command =>
    exact (command.ends_does h hlists hmoments).imp fun _ _ hdone => .of_deed hdone rfl
  | look command =>
    exact command.ends_decline.imp fun _ _ hdone => .of_deed (hdeclines hdone) rfl
  | onSet command =>
    exact (command.ends_decline h).imp fun _ _ hdone => .of_deed (hdeclines hdone) rfl
  | call command => cases hcall
  | unreadable preconditions => exact ends_run_unreadable fun _ => trivial

end CountedHandles
