import CountedHandles.Command.Run
import CountedHandles.Proofs.Reassignment
import Mathlib.Data.List.Perm.Basic

/-!
# Commands on sound sessions

Every command that calls no referent directly leads from a sound session to a sound one, along a
course of acts, and changes only what the names stand for that it is about. A command that is
refused or that panics changes nothing. Only the destruction of a referent can end the run.
-/

namespace CountedHandles

/-- The keepers that may keep other handles after a command than before it. -/
def Command.touches : Command → List Keeper
  | .onReferent (.create name _ _) => [.referent name]
  | .onReferent (.destroy name) => [.referent name]
  | .onReferent (.attach name handle) => [.name handle, .referent name]
  | .onReferent (.detach handle name _) => [.name handle, .referent name]
  | .onReferent _ => []
  | .onHandle (.null name _) => [.name name]
  | .onHandle (.deleted name _) => [.name name]
  | .onHandle (.hold _ name _ _) => [.name name]
  | .onHandle (.holdAddress _ name _ _) => [.name name]
  | .onHandle (.copy name _) => [.name name]
  | .onHandle (.copyReference name _) => [.name name]
  | .onHandle (.moveOut name _) => [.name name]
  | .onHandle (.toReference name _) => [.name name]
  | .onHandle (.toPointer name source) => [.name name, .name source]
  | .onHandle (.rename name source) => [.name name, .name source]
  | .onHandle (.drop name) => [.name name]
  | .change (.replaceBucket name) => [.name name]
  | .change _ => []
  | .look _ => []
  | .onSet (.insert name) => [.name name, .set .raw, .set .packed]
  | .onSet (.replace old name) => [.name old, .name name, .set .raw, .set .packed]
  | .onSet (.contains _) => []
  | .onSet (.remove _) => [.set .raw, .set .packed]
  | .onSet (.take old _) => [.name old, .set .raw, .set .packed]
  | .call _ => []
  | .unreadable _ => []

/-- A referent that is found lies at a site. -/
theorem Store.mem_sites_of_referent? {store : Store} {name : String} {referent : Referent}
    (h : store.referent? name = some referent) : referent.address ∈ store.sites :=
  List.mem_map_of_mem (List.mem_of_find?_eq_some h)

/-- A handle may be made from the address of a referent. -/
theorem Store.settled_of_site {store : Store} {form : Form} {scheme : Scheme} {address : Address}
    {slot : Slot} (hsite : address ∈ store.sites)
    (hslot : Slot.ofAddress scheme address = .ok slot) :
    (store.nextHandle form slot).Settled store := by
  rw [← Slot.address_of_ofAddress hslot] at hsite
  exact Or.inr hsite

/-- A pointer may be made from an address that leads nowhere, and a reference may not. -/
theorem Store.settled_of_allows {store : Store} {form : Form} {scheme : Scheme} {address : Address}
    {slot : Slot} (hallows : store.allows form scheme address = true)
    (hslot : Slot.ofAddress scheme address = .ok slot) :
    (store.nextHandle form slot).Settled store := by
  have haddress := Slot.address_of_ofAddress hslot
  have hscheme := Slot.scheme_of_ofAddress hslot
  unfold Store.allows at hallows
  rw [Bool.or_eq_true] at hallows
  rcases hallows with hlive | hvacant
  · obtain ⟨referent, hfound⟩ := Option.isSome_iff_exists.mp hlive
    have hat : referent.address = address := by simpa using List.find?_some hfound
    have hsite := List.mem_map_of_mem (f := Referent.address) (List.mem_of_find?_eq_some hfound)
    exact settled_of_site (hat ▸ hsite) hslot
  · have hfits : scheme = .packed → decide (SixBytes.Fits address) = true := by
      rintro rfl
      rw [decide_eq_true_eq]
      by_contra hnot
      simp [Slot.ofAddress, SixBytes.ofAddress?, hnot] at hslot
    refine Or.inl (?_ : form = .pointer ∧ slot.target? = none)
    rw [Slot.target?_eq_none_iff, Slot.isNull_iff, Slot.isDeleted_iff, haddress, hscheme]
    cases scheme <;> cases form <;> simp_all

/-- No address is answered with a panic if a referent lies there. -/
theorem Session.misuse?_of_error {session : Session} {place : Place} {scheme : Scheme}
    {address : Address} {cause : Panic} (h : session.store.WellFormed)
    (hgiven : session.addressOf? place = some address)
    (hslot : Slot.ofAddress scheme address = .error cause) :
    place.misuse? scheme = some cause := by
  cases place with
  | address given =>
    cases hgiven
    exact Place.misuse?_of_error hslot
  | referent name =>
    obtain ⟨referent, hfound, rfl⟩ := Option.map_eq_some_iff.mp hgiven
    have hsite := h.isSite _ (Store.mem_sites_of_referent? hfound)
    obtain ⟨slot, hfits⟩ := Slot.exists_ofAddress_of_isSite hsite scheme
    rw [hslot] at hfits
    cases hfits

/-- A pointer that holds no referent cannot be made a reference. -/
theorem Store.WellFormed.releaseMisuse?_of_vacant {store : Store} {handle : Handle}
    (h : store.WellFormed) (hmem : handle ∈ store.handles) (hform : handle.form = .pointer)
    (hvacant : handle.address ∉ store.sites) : handle.releaseMisuse? = some .releasedNull := by
  rcases h.settled handle hmem with ⟨-, htarget⟩ | hlive
  · exact if_pos ⟨hform, Slot.target?_eq_none_iff.mp htarget⟩
  · exact absurd hlive hvacant

open Turn Session

namespace Session

variable {config : Config} {touched : List Keeper} {loose gone new : List Serial}
  {before session : Session} {store : Store} {s : Serial} {name : String}
  {cut : Stop → Session → Prop} {handle : Handle}

/-- A handle that is looked up under its name is the one that a question about the name is about. -/
theorem bind_handle? {question : Handle → Option α} (hserial : session.serial? name = some s)
    (hstored : session.store.handle? s = some handle) :
    (session.handle? name).bind question = question handle := by
  rw [handle?_of_serial? hserial hstored, Option.bind_some]

/-- A new handle is kept under a name. -/
theorem Leads.keepNew {creation : Operation Serial}
    (h : Leads config touched (gone ++ loose) before session) (hname : Keeper.name name ∈ touched)
    (hcreation : creation session.store = .ok s store)
    (hpassage : Store.Passage config gone [s] session.store store) :
    (HandleCommand.keepNew config name creation).Ends session
      (fun _ after => Leads config touched loose before after) cut :=
  ends_bind (ends_perform hcreation (ends_bind
    (((h.passage hpassage).keep hname).imp fun _ _ hkept => ends_pure hkept.1)))

end Session

namespace HandleCommand

variable {config : Config} {session : Session}

/-- A handle that is renamed is kept under its new name. -/
theorem ends_rename {name source : String} {cut : Stop → Session → Prop}
    (h : session.Sound config) (hcut : ∀ refusal, cut (.refused refusal) session) :
    ((HandleCommand.rename name source).run config).Ends session
      (fun _ after =>
        session.Leads config (Command.onHandle (.rename name source)).touches [] after ∧
        after.keptBy (.name name) = session.keptBy (.name source)) cut := by
  refine ends_bind (ends_handle (fun handle hserial _ => ?_) hcut)
  have hfreed : session.Leads config (Command.onHandle (.rename name source)).touches
      [handle.serial] (session.freeName source) :=
    h.leads.freeName (List.mem_cons_of_mem _ List.mem_cons_self) hserial
  refine ends_bind (ends_modify (ends_bind ((hfreed.keep List.mem_cons_self).imp ?_)))
  rintro _ kept ⟨hleads, hkept, -⟩
  exact ends_pure ⟨hleads, by simp only [keptBy, hkept, hserial]⟩

/-- A command that creates, moves or drops a handle leads to a sound session. -/
theorem ends_run (command : HandleCommand) (h : session.Sound config) :
    (command.run config).Ends session
      (fun _ after => session.Leads config (Command.onHandle command).touches [] after)
      (session.Unharmed (session.misuse? (.onHandle command))) := by
  have hc := h.consistent
  have hw := hc.toWellFormed
  have hrefuse : ∀ refusal, session.Unharmed (session.misuse? (.onHandle command))
      (.refused refusal) session := fun _ => rfl
  cases command with
  | null name scheme =>
    exact Leads.keepNew h.leads List.mem_cons_self Handle.run_null
      (.created (Store.settled_null _) (Or.inl rfl))
  | deleted name scheme =>
    exact Leads.keepNew h.leads List.mem_cons_self Handle.run_deleted
      (.created (Store.settled_deleted _) (Or.inl rfl))
  | hold form name scheme referentName =>
    refine ends_bind (ends_referent (fun referent hfound => ?_) hrefuse)
    have hsite := Store.mem_sites_of_referent? hfound
    obtain ⟨slot, hslot⟩ := Slot.exists_ofAddress_of_isSite (hw.isSite _ hsite) scheme
    exact h.leads.keepNew List.mem_cons_self (Handle.run_ofAddress hc hslot)
      (.created (Store.settled_of_site hsite hslot) (Or.inl rfl))
  | holdAddress form name scheme place =>
    refine ends_bind (ends_resolveFor (fun address hgiven hallows => ?_) hrefuse)
    cases hslot : Slot.ofAddress scheme address with
    | ok slot =>
      exact h.leads.keepNew List.mem_cons_self (Handle.run_ofAddress hc hslot)
        (.created (Store.settled_of_allows hallows hslot) (Or.inl rfl))
    | error cause =>
      exact ends_bind (ends_perform_of_error (Handle.run_ofAddress_of_error hslot)
        ⟨rfl, misuse?_of_error hw hgiven hslot⟩)
  | copy name source =>
    refine ends_bind (ends_handle (fun handle hserial hstored => ?_) hrefuse)
    exact h.leads.keepNew List.mem_cons_self (Handle.run_copyAs hc)
      (.created (hw.settled_copy hstored (Or.inl rfl))
        (Or.inr ⟨handle, Store.mem_of_handle? hstored, rfl, rfl⟩))
  | copyReference name source =>
    refine ends_bind (ends_reference (fun handle _ hstored _ => ?_) hrefuse)
    exact h.leads.keepNew List.mem_cons_self (Handle.run_copyAs hc)
      (.created (hw.settled_copy hstored (Or.inr rfl))
        (Or.inr ⟨handle, Store.mem_of_handle? hstored, rfl, rfl⟩))
  | moveOut name source =>
    refine ends_bind (ends_pointer (fun handle hserial hstored hform => ?_) hrefuse)
    exact h.leads.keepNew List.mem_cons_self (Handle.run_moveOut hc hstored)
      (.movedOut hw hstored hform)
  | toReference name source =>
    refine ends_bind (ends_pointer (fun handle hserial hstored hform => ?_) hrefuse)
    by_cases hlive : handle.address ∈ session.store.sites
    · exact h.leads.keepNew List.mem_cons_self
        (Handle.run_toReference hc hstored hform hlive) (.madeReference hstored hform hlive)
    · have hmisuse := hw.releaseMisuse?_of_vacant (Store.mem_of_handle? hstored) hform hlive
      exact ends_bind (ends_perform_of_error (Handle.run_toReference_of_vacant hc hstored hlive)
        ⟨rfl, (bind_handle? hserial hstored).trans hmisuse⟩)
  | toPointer name source =>
    refine ends_bind (ends_reference (fun handle hserial hstored hform => ?_) hrefuse)
    refine ends_bind (ends_modify ?_)
    exact (h.leads.freeName (List.mem_cons_of_mem _ List.mem_cons_self) hserial).keepNew
      List.mem_cons_self (Handle.run_toPointer hc hstored) (.madePointer hw hstored hform)
  | rename name source => exact (ends_rename h hrefuse).imp fun _ _ hdone => hdone.1
  | drop name =>
    refine ends_bind (ends_handle (fun handle hserial hstored => ?_) hrefuse)
    have hfreed : session.Leads config [.name name] [handle.serial] (session.freeName name) :=
      h.leads.freeName List.mem_cons_self hserial
    refine ends_bind (ends_modify (ends_bind ?_))
    exact hfreed.release.imp fun _ _ hdone => ends_pure hdone.1

end HandleCommand

namespace ChangeCommand

variable {config : Config} {touched : List Keeper} {loose : List Serial} {before session : Session}
  {store : Store} {first second : String} {cut : Stop → Session → Prop}

/-- An operation that changes the store is all that such a command comes to. -/
theorem ends_act {operation : Operation Unit} {done : Answer → Session → Prop}
    (hrun : operation session.store = .ok () store)
    (hdone : done .nothing { session with store := store }) :
    (act operation).Ends session done cut :=
  ends_bind (ends_perform hrun (ends_pure hdone))

/-- An alteration leads on. -/
theorem leads_of_altered (h : Session.Leads config touched loose before session)
    (haltered : session.store.Alteration config store) :
    Session.Leads config touched loose before { session with store := store } :=
  have hloose : Session.Leads config touched ([] ++ loose) before session := h
  hloose.passage (haltered.passage h.holding.consistent)

/-- Two different handles of one type are looked up. -/
theorem ends_sameType {pointers : Bool} {done : Handle × Handle → Session → Prop}
    (hdone : ∀ a b, session.serial? first = some a.serial →
      session.store.handle? a.serial = some a → session.serial? second = some b.serial →
      session.store.handle? b.serial = some b → first ≠ second → a.form = b.form →
      a.scheme = b.scheme → (pointers = true → a.form = .pointer) → done (a, b) session)
    (hcut : ∀ refusal, cut (.refused refusal) session) :
    (sameType first second pointers).Ends session done cut := by
  refine ends_bind (ends_distinct (fun a b ha hfirst hb hsecond hne => ?_) hcut)
  refine ends_bind (ends_require (fun htype => ?_) hcut)
  simp only [Handle.sameType, Bool.and_eq_true, Bool.or_eq_true, beq_iff_eq,
    Bool.not_eq_true'] at htype
  obtain ⟨⟨hform, hscheme⟩, hpointers⟩ := htype
  refine hdone a b ha hfirst hb hsecond hne hform hscheme fun hasked => ?_
  rw [hasked] at hpointers
  simpa using hpointers

/-- A bucket is replaced unless it is deleted already. -/
theorem ends_runReplaceBucket_of_found {name : String} {doomed : Handle} (h : session.Sound config)
    (hfound : session.handle? name = some doomed) (hform : doomed.form = .pointer) :
    (runReplaceBucket config name).Ends session
      (fun _ after => session.Leads config [.name name] [] after)
      fun stop after => stop = .fault (.panic .bucketDeleted) ∧ after = session ∧
        doomed.slot.isDeleted = true := by
  refine ends_bind (ends_pointer_of_found hfound hform ?_)
  have hguard := Handle.run_requireNotDeleted doomed session.store
  split at hguard
  · rename_i hdeleted
    exact ends_bind (ends_perform_of_error hguard ⟨rfl, rfl, hdeleted⟩)
  · have hcreation := @Handle.run_null config session.store doomed.scheme
    refine ends_bind (ends_perform hguard (ends_bind (ends_perform hcreation ?_)))
    have hcreated : Store.Passage config [] [session.store.nextSerial] session.store _ :=
      .created (Store.settled_null doomed.scheme) (Or.inl rfl)
    have hleads : session.Leads config [.name name] ([] ++ []) session := h.leads
    have hfresh := @Store.handle?_created_nextSerial config _ .pointer (Slot.null doomed.scheme)
      .created h.consistent.toWellFormed
    refine ends_bind (((hleads.passage hcreated).keep List.mem_cons_self).imp ?_)
    rintro _ kept ⟨hkept, hserial, hstill⟩
    have hbucket := hstill.trans hfresh
    refine ends_bind (ends_pointer_of_found (by rw [handle?, hserial]; exact hbucket) rfl ?_)
    exact ends_act (Handle.run_markDeleted hkept.holding.consistent hbucket rfl)
      (leads_of_altered hkept
        (.renew hbucket (Slot.scheme_deleted _) (Store.settled_deleted _) (Or.inl rfl)))

/-- A command that replaces a bucket does so, is refused, or finds the bucket deleted. -/
theorem ends_runReplaceBucket {name : String} (h : session.Sound config) :
    (runReplaceBucket config name).Ends session
      (fun _ after => session.Leads config [.name name] [] after)
      (session.Unharmed (session.misuse? (.change (.replaceBucket name)))) := by
  by_cases hpointer : ∃ doomed, session.handle? name = some doomed ∧ doomed.form = .pointer
  · obtain ⟨doomed, hfound, hform⟩ := hpointer
    refine (ends_runReplaceBucket_of_found h hfound hform).cut_imp ?_
    rintro _ _ ⟨rfl, rfl, hdeleted⟩
    refine ⟨rfl, ?_⟩
    rw [misuse?, hfound, Option.bind_some]
    exact if_pos ⟨hform, hdeleted⟩
  · refine ends_bind (ends_pointer (fun doomed hserial hstored hform => ?_) fun _ => rfl)
    exact absurd ⟨doomed, handle?_of_serial? hserial hstored, hform⟩ hpointer

/-- An operation that gives a handle its new value is all that a reassignment comes to. -/
theorem ends_renew {command : ChangeCommand} {operation : Operation Unit} {name : String}
    (change : Reassignment) (hreassigns : command.reassigns? = some name)
    (hserial : session.serial? name = some change.handle.serial)
    (hstored : session.store.handle? change.handle.serial = some change.handle)
    (hgiven : session.given? change.handle.scheme command = some (change.value, change.giver?))
    (hrun : operation session.store = .ok () store)
    (hstore : session.store.Reassigns config change store) :
    (act operation).Ends session
      (fun answer after => answer = .nothing ∧ session.Reassigns config command after) cut := by
  have hfound := handle?_of_serial? hserial hstored
  exact ends_act hrun ⟨rfl, change, store,
    (reassignment?_eq_some_iff hreassigns).mpr ⟨hfound, hgiven⟩, hstore, rfl⟩

/-- A slot that is made from an address that is meant by a place is the one for that place. -/
theorem slotFor?_eq_some {place : Place} {scheme : Scheme} {address : Address} {slot : Slot}
    (hgiven : session.addressOf? place = some address)
    (hslot : Slot.ofAddress scheme address = .ok slot) :
    session.slotFor? scheme place = some slot := by
  rw [slotFor?, hgiven, Option.bind_some, hslot]
  rfl

/-- A command that is for one handle gives it a new value. -/
theorem ends_reassign (command : ChangeCommand) {name : String} (h : session.Sound config)
    (hreassigns : command.reassigns? = some name) :
    (command.run config).Ends session
      (fun answer after => answer = .nothing ∧ session.Reassigns config command after)
      (session.Unharmed (session.misuse? (.change command))) := by
  have hc := h.consistent
  have hw := hc.toWellFormed
  have hrefuse : ∀ refusal, session.Unharmed (session.misuse? (.change command))
      (.refused refusal) session := fun _ => rfl
  have hcopy {pointers : Bool} {source : String}
      (hgiven : ∀ scheme, session.given? scheme command =
        (session.handle? source).map fun other => (other.slot, none)) :
      (sameType name source pointers).Ends session
        (fun handles between => (act (Handle.assignCopy config handles.1 handles.2)).Ends between
          (fun answer after => answer = .nothing ∧ session.Reassigns config command after)
          (session.Unharmed (session.misuse? (.change command))))
        (session.Unharmed (session.misuse? (.change command))) := by
    refine ends_sameType (fun a b haSerial ha hbSerial hb _ hform hscheme _ => ?_) hrefuse
    refine ends_renew ⟨a, b.slot, none⟩ hreassigns haSerial ha ?_
      (Handle.run_assignCopy hc ha hb hform.symm)
      (.renew ha hscheme.symm (hw.settled_copy hb (Or.inl hform))
        (Or.inr ⟨b, Store.mem_of_handle? hb, rfl, rfl⟩))
    rw [hgiven, handle?, hbSerial, Option.bind_some, hb, Option.map_some]
  cases command with
  | assignPointer target source =>
    cases hreassigns
    exact ends_bind (hcopy fun _ => rfl)
  | assignMove target source =>
    cases hreassigns
    refine ends_bind (ends_sameType
      (fun a b ha hfirst hb hsecond hne hform hscheme hpointer => ?_) hrefuse)
    have hserials := h.serial?_ne ha hb hne
    have hfirstForm := hpointer rfl
    have hsecondForm := hform.symm.trans hfirstForm
    refine ends_renew ⟨a, b.slot, some b.serial⟩ rfl ha hfirst ?_
      (Handle.run_assignMove hc hfirst hsecond hfirstForm hsecondForm hserials)
      (.move hfirst hsecond hfirstForm hsecondForm hscheme hserials)
    rw [given?, handle?, hb, Option.bind_some, hsecond, Option.map_some]
  | assignHandle target source =>
    cases hreassigns
    exact ends_bind (hcopy fun _ => rfl)
  | pointAt target referentName =>
    cases hreassigns
    refine ends_bind (ends_referent (fun referent hfound => ?_) hrefuse)
    refine ends_bind (ends_handle (fun handle hserial hstored => ?_) hrefuse)
    have hsite := Store.mem_sites_of_referent? hfound
    obtain ⟨slot, hslot⟩ := Slot.exists_ofAddress_of_isSite (hw.isSite _ hsite) handle.scheme
    have hsettled := @Store.settled_of_site _ handle.form _ _ _ hsite hslot
    have hgiven : session.addressOf? (.referent referentName) = some referent.address := by
      rw [addressOf?, hfound, Option.map_some]
    refine ends_renew ⟨handle, slot, none⟩ rfl hserial hstored ?_
      (Handle.run_pointAt hc hstored hslot hsettled)
      (.renew hstored (Slot.scheme_of_ofAddress hslot) hsettled (Or.inl rfl))
    rw [given?, slotFor?_eq_some hgiven hslot, Option.map_some]
  | pointAtAddress target place =>
    cases hreassigns
    refine ends_bind (ends_handle (fun handle hserial hstored => ?_) hrefuse)
    refine ends_bind (ends_resolveFor (fun address hgiven hallows => ?_) hrefuse)
    cases hslot : Slot.ofAddress handle.scheme address with
    | ok slot =>
      have hsettled := Store.settled_of_allows hallows hslot
      refine ends_renew ⟨handle, slot, none⟩ rfl hserial hstored ?_
        (Handle.run_pointAt hc hstored hslot hsettled)
        (.renew hstored (Slot.scheme_of_ofAddress hslot) hsettled (Or.inl rfl))
      rw [given?, slotFor?_eq_some hgiven hslot, Option.map_some]
    | error cause =>
      have hmisuse := misuse?_of_error hw hgiven hslot
      exact ends_bind (ends_perform_of_error (Handle.run_pointAt_of_error hslot)
        ⟨rfl, (bind_handle? hserial hstored).trans hmisuse⟩)
  | clear target =>
    cases hreassigns
    refine ends_bind (ends_pointer (fun handle hserial hstored hform => ?_) hrefuse)
    exact ends_renew ⟨handle, Slot.null handle.scheme, none⟩ rfl hserial hstored rfl
      (Handle.run_clear hc hstored hform)
      (.renew hstored (Slot.scheme_null _) (Or.inl ⟨hform, Slot.target?_null _⟩) (Or.inl rfl))
  | markDeleted target =>
    cases hreassigns
    refine ends_bind (ends_pointer (fun handle hserial hstored hform => ?_) hrefuse)
    exact ends_renew ⟨handle, Slot.deleted handle.scheme, none⟩ rfl hserial hstored rfl
      (Handle.run_markDeleted hc hstored hform)
      (.renew hstored (Slot.scheme_deleted _) (Or.inl ⟨hform, Slot.target?_deleted _⟩)
        (Or.inl rfl))
  | swap _ _ => cases hreassigns
  | vacateBucket _ => cases hreassigns
  | replaceBucket _ => cases hreassigns

/-- A command that changes handles alters the store, unless it replaces a bucket. -/
theorem ends_alter (command : ChangeCommand) (h : session.Sound config)
    (hreplaces : ∀ name, command ≠ .replaceBucket name) :
    (command.run config).Ends session
      (fun _ after => ∃ store, session.store.Alteration config store ∧
        after = { session with store := store })
      (session.Unharmed (session.misuse? (.change command))) := by
  have hc := h.consistent
  have hreassign {name : String} (hreassigns : command.reassigns? = some name) :=
    (ends_reassign command h hreassigns).imp fun _ _ hdone => hdone.2.alteration
  cases command with
  | swap name other =>
    refine ends_bind (ends_sameType (fun a b _ ha _ hb _ hform hscheme _ => ?_) fun _ => rfl)
    exact ends_act (Handle.run_swap hc ha hb) ⟨_, .swap ha hb hform hscheme, rfl⟩
  | vacateBucket name =>
    refine ends_bind (ends_pointer (fun handle hserial hstored hform => ?_) fun _ => rfl)
    cases hdeleted : handle.slot.isDeleted with
    | false =>
      exact ends_act (Handle.run_vacateBucket hc hstored hform hdeleted)
        ⟨_, .vacate hstored hform, rfl⟩
    | true =>
      exact ends_bind (ends_perform_of_error (Handle.run_vacateBucket_of_deleted hdeleted)
        ⟨rfl, (bind_handle? hserial hstored).trans (if_pos ⟨hform, hdeleted⟩)⟩)
  | replaceBucket name => exact absurd rfl (hreplaces name)
  | assignPointer _ _ => exact hreassign rfl
  | assignMove _ _ => exact hreassign rfl
  | assignHandle _ _ => exact hreassign rfl
  | pointAt _ _ => exact hreassign rfl
  | pointAtAddress _ _ => exact hreassign rfl
  | clear _ => exact hreassign rfl
  | markDeleted _ => exact hreassign rfl

/-- A command that changes handles leads to a sound session. -/
theorem ends_run (command : ChangeCommand) (h : session.Sound config) :
    (command.run config).Ends session
      (fun _ after => session.Leads config (Command.change command).touches [] after)
      (session.Unharmed (session.misuse? (.change command))) := by
  by_cases hreplaces : ∃ name, command = .replaceBucket name
  · obtain ⟨name, rfl⟩ := hreplaces
    exact ends_runReplaceBucket h
  · refine (command.ends_alter h (not_exists.mp hreplaces)).imp ?_
    rintro _ _ ⟨store, haltered, rfl⟩
    exact leads_of_altered h.leads haltered

end ChangeCommand

namespace SetCommand

variable {config : Config} {session : Session} {cut : Stop → Session → Prop} {pointer : Handle}

/-- A set is no matter of names. -/
theorem members_freeName {name : String} {scheme : Scheme} :
    (session.freeName name).members scheme = session.members scheme := by
  cases scheme <;> rfl

/-- A member that is equal to a pointer is looked up. -/
theorem ends_equalMember? {done : Option Serial → Session → Prop}
    (hdone : ∀ member?, (∀ s, member? = some s → s ∈ session.members pointer.scheme) →
      done member? session) : (equalMember? pointer).Ends session done cut :=
  ends_bind (ends_get (ends_pure (hdone _ fun _ hfound => List.mem_of_find?_eq_some hfound)))

/-- A command on sets leads to a sound session. -/
theorem ends_run (command : SetCommand) (h : session.Sound config) :
    (command.run config).Ends session
      (fun _ after => session.Leads config (Command.onSet command).touches [] after)
      (session.Unharmed none) := by
  have hrefuse : ∀ refusal, session.Unharmed none (.refused refusal) session := fun _ => rfl
  cases command with
  | insert name =>
    refine ends_bind (ends_pointer (fun pointer hserial hstored _ => ?_) hrefuse)
    have hset : Keeper.set pointer.scheme ∈ (Command.onSet (.insert name)).touches := by
      cases pointer.scheme <;> simp [Command.touches]
    refine ends_bind (ends_equalMember? fun member? _ => ends_bind (ends_modify ?_))
    have hfreed : session.Leads config (Command.onSet (.insert name)).touches [pointer.serial]
        (session.freeName name) := h.leads.freeName List.mem_cons_self hserial
    cases member? with
    | none =>
      refine ends_bind (ends_modify (ends_pure ?_))
      exact hfreed.addMember (hset)
    | some member =>
      exact ends_bind (hfreed.release.imp fun _ _ hdone => ends_pure hdone.1)
  | replace old name =>
    refine ends_bind (ends_pointer (fun pointer hserial hstored _ => ?_) hrefuse)
    have hset : Keeper.set pointer.scheme ∈ (Command.onSet (.replace old name)).touches := by
      cases pointer.scheme <;> simp [Command.touches]
    refine ends_bind (ends_equalMember? fun member? hmember => ends_bind (ends_modify ?_))
    have hfreed : session.Leads config (Command.onSet (.replace old name)).touches
        [pointer.serial] (session.freeName name) :=
      h.leads.freeName (List.mem_cons_of_mem _ List.mem_cons_self) hserial
    cases member? with
    | none => exact ends_bind (ends_modify (ends_pure (hfreed.addMember hset)))
    | some member =>
      have hmem : member ∈ (session.freeName name).members pointer.scheme := by
        rw [members_freeName]
        exact hmember member rfl
      have hremoved := (hfreed.removeMember hset hmem).perm (List.Perm.swap _ _ _)
      refine ends_bind (ends_modify (ends_bind (ends_modify (ends_bind ?_))))
      exact ((hremoved.addMember hset).keep List.mem_cons_self).imp
        fun _ _ hkept => ends_pure hkept.1
  | contains name =>
    refine ends_bind (ends_pointer (fun pointer _ _ _ => ?_) hrefuse)
    exact ends_bind (ends_equalMember? fun _ _ => ends_pure h.leads)
  | remove name =>
    refine ends_bind (ends_pointer (fun pointer _ _ _ => ?_) hrefuse)
    have hset : Keeper.set pointer.scheme ∈ (Command.onSet (.remove name)).touches := by
      cases pointer.scheme <;> simp [Command.touches]
    refine ends_bind (ends_equalMember? fun member? hmember => ?_)
    cases member? with
    | none => exact ends_pure h.leads
    | some member =>
      have hremoved := h.leads.removeMember hset (hmember member rfl)
      refine ends_bind (ends_modify (ends_bind ?_))
      exact hremoved.release.imp fun _ _ hdone => ends_pure hdone.1
  | take old name =>
    refine ends_bind (ends_pointer (fun pointer _ _ _ => ?_) hrefuse)
    have hset : Keeper.set pointer.scheme ∈ (Command.onSet (.take old name)).touches := by
      cases pointer.scheme <;> simp [Command.touches]
    refine ends_bind (ends_equalMember? fun member? hmember => ?_)
    cases member? with
    | none => exact ends_pure h.leads
    | some member =>
      have hremoved := h.leads.removeMember hset (hmember member rfl)
      refine ends_bind (ends_modify (ends_bind ?_))
      exact (hremoved.keep List.mem_cons_self).imp fun _ _ hkept => ends_pure hkept.1

end SetCommand

namespace ReferentCommand

variable {config : Config} {session : Session} {name : String} {referent : Referent}

/-- A change of nothing but the links is unobtrusive. -/
theorem unobtrusive_links (change : List Serial → List Serial) :
    Store.Unobtrusive fun owner => { owner with links := change owner.links } :=
  ⟨fun _ => rfl, fun _ => rfl, fun _ => rfl, fun _ => rfl⟩

/-- A referent gets a free site and a name that none had before. -/
theorem ends_create {value : Int64} {address? : Option Address} {cut : Stop → Session → Prop}
    (hcut : ∀ refusal, cut (.refused refusal) session) :
    ((ReferentCommand.create name value address?).run config).Ends session
      (fun _ after => ∃ address : Address, address.isSite = true ∧ address ∉ session.store.sites ∧
        name ∉ session.created ∧ after = { session with
          store := session.store.addReferent name address value
          created := session.created ++ [name] }) cut := by
  refine ends_bind (ends_require (fun _ => ends_bind (ends_get ?_)) hcut)
  refine ends_bind (ends_require (fun hname => ends_bind (ends_require (fun haddress => ?_)
    hcut)) hcut)
  rw [Bool.not_eq_true', List.contains_eq_mem, decide_eq_false_iff_not] at hname
  rw [Bool.and_eq_true, Option.isNone_iff_eq_none] at haddress
  refine ends_bind (ends_set (ends_pure ⟨_, ReferentKind.isSite_of_offers haddress.1,
    fun hmem => ?_, hname, rfl⟩))
  obtain ⟨referent, hreferent, hat⟩ := List.mem_map.mp hmem
  have hnone := List.find?_eq_none.mp haddress.2 referent hreferent
  exact hnone (by simpa using hat)

/-- A referent of a sound session is destroyed with its links unless its check ends the run. -/
theorem run_destroy (h : session.Sound config)
    (hfound : session.store.referent? name = some referent) :
    (ReferentCommand.destroy name).run config session =
      match (session.store.checkpoint config referent).violationOf? referent.name with
      | none => .ok .nothing { session with store := session.store.destroyed config referent }
      | some violation => .error (.fault (.violation violation))
          { session with store := session.store.checkpoint config referent } := by
  obtain ⟨hmem, rfl⟩ := (Store.referent?_eq_some_iff h.consistent.nodup_names).mp hfound
  have hcovered : (session.store.holders referent.address).length ≤ referent.count :=
    Nat.le_of_eq (h.consistent.reflects referent hmem).count_eq.symm
  have hdestroy := @Referent.run_destroy config session.store referent h.consistent
  simp only [ReferentCommand.run, runDestroy, Turn.run_bind, Turn.run_referent hfound,
    Turn.run_get, hcovered, decide_true, Turn.run_require_true, perform, hdestroy]
  cases (session.store.checkpoint config referent).violationOf? referent.name <;> rfl

/-- A handle that is attached is kept as the last link. -/
theorem ends_attach {handleName : String} {cut : Stop → Session → Prop} (h : session.Sound config)
    (hcut : ∀ refusal, cut (.refused refusal) session) :
    ((ReferentCommand.attach name handleName).run config).Ends session
      (fun _ after =>
        session.Leads config (Command.onReferent (.attach name handleName)).touches [] after ∧
        after.keptBy (.referent name) =
          session.keptBy (.referent name) ++ session.keptBy (.name handleName)) cut := by
  refine ends_bind (ends_referent (fun referent hfound => ?_) hcut)
  refine ends_bind (ends_handle (fun handle hserial _ => ?_) hcut)
  refine ends_bind (ends_modify (ends_bind (ends_modify (ends_pure ?_))))
  obtain rfl : referent.name = name := by simpa using List.find?_some hfound
  have hchange := unobtrusive_links fun links => links ++ [handle.serial]
  constructor
  · have hfreed : session.Leads config
        (Command.onReferent (.attach referent.name handleName)).touches ([handle.serial] ++ [])
        (session.freeName handleName) := h.leads.freeName List.mem_cons_self hserial
    have hmoved : ([] ++ (referent.links ++ [handle.serial])).Perm
        ([handle.serial] ++ referent.links) := by
      rw [List.nil_append]
      exact List.perm_append_comm
    exact hfreed.updateLinks (List.mem_of_find?_eq_some hfound) hchange
      (Or.inl (List.mem_cons_of_mem _ List.mem_cons_self)) hmoved
  · have hbefore : session.keptBy (.referent referent.name) = referent.links := by
      simp only [keptBy, Store.linksOf, hfound, Option.elim]
    have hname : session.keptBy (.name handleName) = [handle.serial] := by
      simp only [keptBy, hserial, Option.toList]
    rw [hbefore, hname]
    exact Store.linksOf_updateReferent_self hchange.name_eq hfound

/-- A link that is detached is kept under its new name. -/
theorem ends_detach {handleName : String} {index : Nat} {cut : Stop → Session → Prop}
    (h : session.Sound config) (hcut : ∀ refusal, cut (.refused refusal) session) :
    ((ReferentCommand.detach handleName name index).run config).Ends session
      (fun _ after =>
        session.Leads config (Command.onReferent (.detach handleName name index)).touches []
          after ∧
        after.keptBy (.name handleName) = (session.keptBy (.referent name))[index]?.toList)
      cut := by
  refine ends_bind (ends_referent (fun referent hfound => ?_) hcut)
  obtain rfl : referent.name = name := by simpa using List.find?_some hfound
  have hbefore : session.keptBy (.referent referent.name) = referent.links := by
    simp only [keptBy, Store.linksOf, hfound, Option.elim]
  rw [hbefore]
  cases hlink : referent.links[index]? with
  | none => exact ends_refuse (hcut _)
  | some serial =>
    obtain ⟨hindex, rfl⟩ := List.getElem?_eq_some_iff.mp hlink
    have hloose : session.Leads config
        (Command.onReferent (.detach handleName referent.name index)).touches ([] ++ []) session :=
      h.leads
    have hmoved : ([referent.links[index]] ++ referent.links.eraseIdx index).Perm
        ([] ++ referent.links) := List.getElem_cons_eraseIdx_perm hindex
    have hdetached := hloose.updateLinks (List.mem_of_find?_eq_some hfound)
      (unobtrusive_links fun links => links.eraseIdx index)
      (Or.inl (List.mem_cons_of_mem _ List.mem_cons_self)) hmoved
    refine ends_bind (ends_modify (ends_bind ((hdetached.keep List.mem_cons_self).imp ?_)))
    rintro _ kept ⟨hleads, hkept, -⟩
    exact ends_pure ⟨hleads, by simp only [keptBy, hkept]⟩

/-- A command on referents leads to a sound session, unless the destruction of one ends the run. -/
theorem ends_run (command : ReferentCommand) (h : session.Sound config) :
    (command.run config).Ends session
      (fun _ after => session.Leads config (Command.onReferent command).touches [] after)
      fun stop after => session.Unharmed none stop after ∨ ∃ referent ∈ session.store.referents,
        command = .destroy referent.name ∧ session.Violates config referent stop after := by
  have hrefuse : ∀ refusal, session.Unharmed none (.refused refusal) session ∨
      ∃ referent ∈ session.store.referents, command = .destroy referent.name ∧
        session.Violates config referent (.refused refusal) session := fun _ => Or.inl rfl
  cases command with
  | create name value address? =>
    refine (ends_create hrefuse).imp ?_
    rintro _ _ ⟨address, hsite, hfree, hname, rfl⟩
    have hnew : name ∉ session.store.names := fun hmem => hname (h.created_mem name hmem)
    refine ⟨h.addReferent hname hfree hsite, .single (.addReferent hnew hfree hsite), ?_⟩
    intro keeper hkeeper
    refine keptBy_withStore ?_
    rintro other rfl
    exact Store.linksOf_addReferent_of_ne fun heq => hkeeper (heq ▸ List.mem_cons_self)
  | destroy name =>
    cases hfound : session.store.referent? name with
    | none =>
      refine ends_bind (ends_referent (fun referent hsome => ?_) hrefuse)
      rw [hfound] at hsome
      cases hsome
    | some referent =>
      obtain ⟨hmem, rfl⟩ := (Store.referent?_eq_some_iff h.consistent.nodup_names).mp hfound
      unfold Ends
      rw [run_destroy h hfound]
      cases hchecked : (session.store.checkpoint config referent).violationOf? referent.name with
      | none =>
        refine ⟨h.destroyed hmem hchecked, .destroyed h.consistent hmem hchecked,
          fun keeper hkeeper => keptBy_withStore ?_⟩
        rintro other rfl
        have hne : other ≠ referent.name := fun heq => hkeeper (heq ▸ List.mem_cons_self)
        exact (Store.linksOf_removeReferent_of_ne hne).trans
          ((h.releasedLinks hmem).linksOf_eq other)
      | some violation => exact Or.inr ⟨referent, hmem, rfl, hchecked, rfl⟩
  | roster name => exact ends_bind (ends_referent (fun _ _ => ends_pure h.leads) hrefuse)
  | provenances name =>
    exact ends_bind (ends_require (fun _ => ends_bind (ends_referent (fun _ _ =>
      ends_pure h.leads) hrefuse)) hrefuse)
  | printCounter name =>
    exact ends_bind (ends_referent (fun _ _ => ends_bind (ends_require (fun _ =>
      ends_pure h.leads) hrefuse)) hrefuse)
  | attach name handleName => exact (ends_attach h hrefuse).imp fun _ _ hdone => hdone.1
  | detach handleName name index => exact (ends_detach h hrefuse).imp fun _ _ hdone => hdone.1

end ReferentCommand

namespace LookCommand

variable {config : Config} {session : Session} {cut : Stop → Session → Prop}

/-- A command that looks at handles changes at most the value of a referent. -/
theorem ends_look (command : LookCommand) :
    (command.run config).Ends session
      (fun _ after => after = session ∨ ∃ referent ∈ session.store.referents, ∃ value : Int64,
        after = { session with
          store := session.store.updateReferent referent.name fun target =>
            { target with value := value } })
      (session.Unharmed none) := by
  have hrefuse : ∀ refusal, session.Unharmed none (.refused refusal) session := fun _ => rfl
  have hsame {answer : Answer} {changed : Session → Prop} :
      (pure answer : Turn Answer).Ends session (fun _ after => after = session ∨ changed after)
        (session.Unharmed none) := ends_pure (Or.inl rfl)
  have hlook {question : Handle → Answer} {name : String} {changed : Session → Prop} :
      (do return question (← handle name) : Turn Answer).Ends session
        (fun _ after => after = session ∨ changed after) (session.Unharmed none) :=
    ends_bind (ends_handle (fun _ _ _ => hsame) hrefuse)
  have hlookPointer {question : Handle → Answer} {name : String} {changed : Session → Prop} :
      (do return question (← pointer name) : Turn Answer).Ends session
        (fun _ after => after = session ∨ changed after) (session.Unharmed none) :=
    ends_bind (ends_pointer (fun _ _ _ _ => hsame) hrefuse)
  cases command with
  | compare first second differ =>
    exact ends_bind (ends_handle (fun _ _ _ => ends_bind (ends_handle (fun _ _ _ =>
      hsame) hrefuse)) hrefuse)
  | compareAddress name place =>
    exact ends_bind (ends_resolve (fun _ _ => ends_bind (ends_handle (fun _ _ _ =>
      hsame) hrefuse)) hrefuse)
  | hash name => exact hlook
  | print name style => exact hlook
  | address name => exact hlook
  | pointerAddress name => exact hlookPointer
  | isNull name => exact hlookPointer
  | isDeleted name => exact hlookPointer
  | serial name => exact hlook
  | read name access =>
    refine ends_bind (ends_handle (fun handle _ _ => ends_bind ?_) hrefuse)
    have hread {changed : Session → Prop} :
        (get >>= fun session : Session => pure ((session.store.targetOf? handle).elim
          .nothing fun referent => .value referent.value) : Turn Answer).Ends session
          (fun _ after => after = session ∨ changed after) (session.Unharmed none) :=
      ends_bind (ends_get hsame)
    cases access with
    | optional => exact ends_require (fun _ => hread) hrefuse
    | pinned => exact ends_pure hread
    | direct => exact ends_require (fun _ => hread) hrefuse
  | write name value =>
    refine ends_bind (ends_handle (fun handle _ _ => ends_bind (ends_get ?_)) hrefuse)
    cases htarget : session.store.targetOf? handle with
    | none => exact hsame
    | some referent =>
      obtain ⟨address, -, hat⟩ := Option.bind_eq_some_iff.mp htarget
      exact ends_bind (ends_modify (ends_pure
        (Or.inr ⟨referent, List.mem_of_find?_eq_some hat, value, rfl⟩)))
  | path name =>
    exact ends_bind (ends_handle (fun _ _ _ => ends_bind (ends_get hsame)) hrefuse)
  | dump => exact ends_bind (ends_get hsame)

/-- A change of nothing but the value is unobtrusive. -/
theorem unobtrusive_value (value : Int64) :
    Store.Unobtrusive fun target => { target with value := value } :=
  ⟨fun _ => rfl, fun _ => rfl, fun _ => rfl, fun _ => rfl⟩

/-- A command that looks at handles leads to a sound session. -/
theorem ends_run (command : LookCommand) (h : session.Sound config) :
    (command.run config).Ends session (fun _ after => session.Leads config [] [] after)
      (session.Unharmed none) := by
  refine command.ends_look.imp ?_
  rintro _ after (rfl | ⟨referent, hmem, value, rfl⟩)
  · exact h.leads
  · have hloose : session.Leads config [] ([] ++ []) session := h.leads
    exact hloose.updateLinks hmem (unobtrusive_value value) (Or.inr fun _ => rfl) (.refl _)

end LookCommand

namespace Command

variable {config : Config} {session : Session} {cut : Stop → Session → Prop}

/-- A precondition holds or refuses the command. -/
theorem ends_establish {precondition : Precondition} {done : Unit → Session → Prop}
    (hdone : done () session) (hcut : ∀ refusal, cut (.refused refusal) session) :
    (establish config precondition).Ends session done cut := by
  cases precondition with
  | tracking => exact ends_require (fun _ => hdone) hcut
  | place place => exact ends_bind (ends_resolve (fun _ _ => ends_pure hdone) hcut)
  | handle name => exact ends_bind (ends_handle (fun _ _ _ => ends_pure hdone) hcut)
  | pointer name => exact ends_bind (ends_pointer (fun _ _ _ _ => ends_pure hdone) hcut)
  | reference name => exact ends_bind (ends_reference (fun _ _ _ _ => ends_pure hdone) hcut)

/-- A command that cannot be read is refused. -/
theorem ends_run_unreadable {preconditions : List Precondition} {done : Answer → Session → Prop}
    (hcut : ∀ refusal, cut (.refused refusal) session) :
    ((Command.unreadable preconditions).run config).Ends session done cut := by
  refine ends_bind ?_
  induction preconditions with
  | nil => exact ends_pure (ends_refuse (hcut _))
  | cons precondition rest ih => exact ends_bind (ends_establish ih hcut)

/-- A command that calls no referent directly leads to a sound session, unless the destruction of a
referent ends the run. -/
theorem ends_run (command : Command) (h : session.Sound config) (hcall : command.isCall = false) :
    (command.run config).Ends session
      (fun _ after => session.Leads config command.touches [] after)
      fun stop after => session.Unharmed (session.misuse? command) stop after ∨
        ∃ referent ∈ session.store.referents, command = .onReferent (.destroy referent.name) ∧
          session.Violates config referent stop after := by
  cases command with
  | onReferent command =>
    refine (command.ends_run h).cut_imp fun _ _ hcut => hcut.imp_right ?_
    rintro ⟨referent, hmem, rfl, hviolates⟩
    exact ⟨referent, hmem, rfl, hviolates⟩
  | onHandle command => exact (command.ends_run h).cut_imp fun _ _ => Or.inl
  | change command => exact (command.ends_run h).cut_imp fun _ _ => Or.inl
  | look command => exact (command.ends_run h).cut_imp fun _ _ => Or.inl
  | onSet command => exact (command.ends_run h).cut_imp fun _ _ => Or.inl
  | call command => cases hcall
  | unreadable preconditions => exact ends_run_unreadable fun _ => Or.inl rfl

end Command

end CountedHandles
