import CountedHandles.Proofs.Origins

/-!
# Deeds

A deed is what a single command does to a store. Handles hold what they hold in one stretch while it
is done: none returns to a referent that it has left. New handles that hold a referent in the end
are entered in a way that is known from the command. Every operation on handles is shown to be a
deed, and it remains one when handles go away afterwards.
-/

namespace CountedHandles.Store

variable {config : Config} {start store before after : Store} {a b s : Serial}
  {first second handle : Handle} {form : Form} {slot : Slot} {provenance : Provenance}
  {address : Address} {referent : Referent}
  {given given' : String → Address → Serial → Provenance → Prop}

/-- A handle that holds something is one of those that exist. -/
theorem mem_serials_of_holds (h : store.Holds s address) : s ∈ store.serials := by
  obtain ⟨handle, hmem, rfl, -⟩ := h
  exact List.mem_map_of_mem hmem

/-- A slot that leads nowhere holds no site. -/
theorem address_ne_of_target? (hvacant : slot.target? = none) (hsite : address.isSite = true) :
    slot.address ≠ address := by
  rintro rfl
  rw [Slot.target?_of_isSite hsite] at hvacant
  cases hvacant

/-- A referent with a given name lies at a given address. -/
def HasAt (store : Store) (name : String) (address : Address) : Prop :=
  ∃ referent ∈ store.referents, referent.name = name ∧ referent.address = address

/-! ## Declines -/

/-- Acts on which no handle comes to hold a site. -/
def Decline (config : Config) : Store → Store → Prop :=
  Relation.ReflTransGen fun before after => Act config before after ∧
    ∀ s address, address.isSite = true → after.Holds s address → before.Holds s address

namespace Decline

/-- A single act on which no handle comes is a decline. -/
theorem single (hact : Act config before after)
    (hholds : ∀ s address, address.isSite = true → after.Holds s address →
      before.Holds s address) : Decline config before after :=
  Relation.ReflTransGen.single ⟨hact, hholds⟩

/-- An act that leaves all handles as they are is a decline. -/
theorem of_handles (hact : Act config before after) (hhandles : after.handles = before.handles) :
    Decline config before after :=
  single hact fun s address _ hholds => by simpa only [Holds, hhandles] using hholds

/-- A new handle to nothing comes to hold no site. -/
theorem created (hform : form = .pointer) (hvacant : slot.target? = none) :
    Decline config store (store.created config form slot .created) := by
  refine single (.create (Or.inl ⟨hform, hvacant⟩) (Or.inl rfl)) fun s address hsite hholds => ?_
  rw [Store.created, holds_tell, holds_addHandle] at hholds
  exact hholds.resolve_right fun hnew => address_ne_of_target? hvacant hsite hnew.2

/-- Handles that hold nothing can exchange it. -/
theorem swapped (h : store.WellFormed) (ha : store.handle? a = some first)
    (hb : store.handle? b = some second) (hform : first.form = second.form)
    (hscheme : first.scheme = second.scheme) (hfirst : first.slot.target? = none)
    (hsecond : second.slot.target? = none) : Decline config store (store.swapped config a b) := by
  refine single (.swap ha hb hform hscheme) fun s address hsite hholds => ?_
  rw [holds_swapped h ha hb] at hholds
  split at hholds
  · exact absurd hholds (address_ne_of_target? hfirst hsite)
  split at hholds
  · exact absurd hholds (address_ne_of_target? hsecond hsite)
  · exact hholds

/-- Where a handle is released none comes. -/
theorem released : Decline config store (store.released config s) :=
  single (.release s) fun _ _ _ hholds => (holds_released.mp hholds).1

/-- Where handles are released one after the other none comes. -/
theorem releasedAll {serials : List Serial} :
    Decline config store (store.releasedAll config serials) := by
  induction serials generalizing store with
  | nil => exact .refl
  | cons serial rest ih => exact Relation.ReflTransGen.trans released ih

/-- A handle that holds nothing is renewed with nothing. -/
theorem renewed (h : store.Consistent config) (hfound : store.handle? s = some handle)
    (hform : handle.form = .pointer) (hvacant : handle.slot.target? = none)
    (hscheme : slot.scheme = handle.scheme) (hslot : slot.target? = none) :
    Decline config store (store.renewed config s handle.form slot .created) := by
  have hcreated : (store.created config handle.form slot .created).WellFormed :=
    (h.created (Or.inl ⟨hform, hslot⟩) (by simp)).toWellFormed
  exact .trans (.trans (created hform hslot) (swapped hcreated (handle?_created hfound)
    (handle?_created_nextSerial h.toWellFormed) rfl hscheme.symm hvacant hslot)) released

/-- A referent that passes its check goes by a decline. -/
theorem destroyed (h : store.Consistent config) (hmem : referent ∈ store.referents)
    (hchecked : (store.checkpoint config referent).violationOf? referent.name = none) :
    Decline config store (store.destroyed config referent) :=
  .trans releasedAll (of_handles (.destroyed h hmem hchecked) rfl)

/-- No handle holds a site in the end that did not hold it before. -/
theorem holds (h : Decline config before after) (hsite : address.isSite = true)
    (hholds : after.Holds s address) : before.Holds s address := by
  induction h with
  | refl => exact hholds
  | tail _ hact ih => exact ih (hact.2 s address hsite hholds)

end Decline

/-! ## Stretches -/

/-- A store that has come from another one while every handle held what it held in one stretch. -/
structure Stretches (config : Config) (start store : Store) : Prop where
  /-- The store is consistent. -/
  consistent : store.Consistent config
  /-- No handle has returned to what it held before. -/
  unbroken : ∀ address, address.isSite = true → Unbroken start.handles address store

namespace Stretches

/-- Nothing has been broken yet. -/
theorem refl (h : start.Consistent config) (hmoments : start.moments = []) :
    Stretches config start start :=
  ⟨h, fun _ _ => .refl hmoments⟩

/-- A decline breaks nothing. -/
theorem decline (h : Stretches config start before) (htracking : config.build.tracking = true)
    (hdecline : Decline config before after) : Stretches config start after := by
  induction hdecline with
  | refl => exact h
  | tail _ hact ih =>
    refine ⟨hact.1.consistent ih.consistent, fun address hsite => (ih.unbroken address hsite).act
      (hact.1.shows ih.consistent htracking) fun s hholds hnew => ?_⟩
    exact absurd (hact.2 s address hsite hholds) hnew

/-- The first act breaks nothing. -/
theorem single (h : start.Consistent config) (htracking : config.build.tracking = true)
    (hmoments : start.moments = []) (hact : Act config start after) :
    Stretches config start after :=
  ⟨hact.consistent h, fun _ _ => .single hmoments (hact.shows h htracking)⟩

/-- An exchange after a creation breaks nothing. -/
theorem exchange (h : start.Consistent config) (htracking : config.build.tracking = true)
    (hmoments : start.moments = [])
    (hcreate : Act config start (start.created config form slot provenance))
    (ha : (start.created config form slot provenance).handle? a = some first)
    (hb : (start.created config form slot provenance).handle? b = some second)
    (hform : first.form = second.form) (hscheme : first.scheme = second.scheme) :
    Stretches config start ((start.created config form slot provenance).swapped config a b) := by
  have hcreated := hcreate.consistent h
  have hswap : Act config (start.created config form slot provenance) _ :=
    .swap ha hb hform hscheme
  refine ⟨hswap.consistent hcreated, fun address hsite => .pair hmoments
    (hcreate.shows h htracking) (fun s hheld => ?_) (hswap.shows hcreated htracking)⟩
  rw [Store.created, holds_tell, holds_addHandle]
  exact Or.inl hheld

/-- A value is moved out without a break. -/
theorem movedOut (h : start.Consistent config) (htracking : config.build.tracking = true)
    (hmoments : start.moments = []) (hfound : start.handle? s = some handle)
    (hform : handle.form = .pointer) :
    Stretches config start (start.movedOut config handle.scheme s) :=
  exchange h htracking hmoments (.create (settled_null _) (Or.inl rfl))
    (handle?_created_nextSerial h.toWellFormed) (handle?_created hfound) hform.symm
    (Slot.scheme_null _)

/-- A handle is renewed without a break. -/
theorem renewed (h : start.Consistent config) (htracking : config.build.tracking = true)
    (hmoments : start.moments = []) (hfound : start.handle? s = some handle)
    (hscheme : slot.scheme = handle.scheme)
    (hsettled : (start.nextHandle handle.form slot).Settled start)
    (hprovenance : provenance = .created ∨
      ∃ source ∈ start.handles, source.slot = slot ∧ provenance = .copied source.serial) :
    Stretches config start (start.renewed config s handle.form slot provenance) :=
  (exchange h htracking hmoments (.create hsettled hprovenance) (handle?_created hfound)
    (handle?_created_nextSerial h.toWellFormed) rfl hscheme.symm).decline htracking .released

/-- A bucket whose value is taken out and that is marked then breaks nothing. -/
theorem vacated (h : start.Consistent config) (htracking : config.build.tracking = true)
    (hmoments : start.moments = []) (hfound : start.handle? handle.serial = some handle)
    (hform : handle.form = .pointer) :
    Stretches config start (start.vacated config handle) := by
  have hrecorded := (Act.record (.reclaiming handle.address)).consistent h
  have hmoved := @movedOut config (start.addEvent (.log (.reclaiming handle.address)))
    handle.serial handle hrecorded htracking ((moments_of_events rfl rfl).trans hmoments) hfound
    hform
  have hemptied := hmoved.decline htracking (@Decline.released config _ start.nextSerial)
  have hempty := handle?_emptied hrecorded hfound
  have hmarked := hemptied.decline htracking (@Decline.renewed config _ handle.serial
    { handle with slot := Slot.null handle.scheme } (Slot.deleted handle.scheme)
    hemptied.consistent hempty hform (Slot.target?_null _)
    ((Slot.scheme_deleted _).trans (Slot.scheme_null _).symm) (Slot.target?_deleted _))
  exact ⟨hmarked.consistent, hmarked.unbroken⟩

/-- A value that is moved from one pointer to another breaks nothing. -/
theorem movedTo (h : start.Consistent config) (htracking : config.build.tracking = true)
    (hmoments : start.moments = []) (ha : start.handle? a = some first)
    (hb : start.handle? b = some second) (hform : first.form = .pointer)
    (hsecondForm : second.form = .pointer) (hscheme : first.scheme = second.scheme) (hne : a ≠ b) :
    Stretches config start
      ((start.movedOut config second.scheme b).reassigned config a start.nextSerial) := by
  have hw := h.toWellFormed
  have hmoved := movedOut h htracking hmoments hb hsecondForm
  have hcreate : Act config start
      (start.created config .pointer (Slot.null second.scheme) .created) :=
    .create (settled_null _) (Or.inl rfl)
  have hcreated := hcreate.consistent h
  have hnull := @handle?_created_nextSerial config _ .pointer (Slot.null second.scheme) .created hw
  have hstill := @handle?_created config _ _ _ .pointer (Slot.null second.scheme) .created hb
  have hout : Act config (start.created config .pointer (Slot.null second.scheme) .created)
      (start.movedOut config second.scheme b) :=
    .swap hnull hstill hsecondForm.symm (Slot.scheme_null _)
  have hfirst := @handle?_movedOut_of_ne config _ _ _ _ _ h hb ha hne
  have htaken := @handle?_movedOut_nextSerial config _ _ _ h hb
  have hin : Act config (start.movedOut config second.scheme b)
      ((start.movedOut config second.scheme b).swapped config a start.nextSerial) :=
    .swap hfirst htaken hform hscheme
  have hswapped : Stretches config start
      ((start.movedOut config second.scheme b).swapped config a start.nextSerial) := by
    refine ⟨hin.consistent hmoved.consistent, fun address hsite =>
      (hmoved.unbroken address hsite).act (hin.shows hmoved.consistent htracking) ?_⟩
    intro s hholds hnew
    have hsb : s ≠ b := by
      rintro rfl
      rw [holds_swapped hmoved.consistent.toWellFormed hfirst htaken,
        if_neg (hw.ne_nextSerial hb), if_neg (Ne.symm hne)] at hholds
      exact hnew hholds
    have hstart : ¬ start.Holds s address := by
      intro hheld
      have hsn : s ≠ start.nextSerial := fun heq => hw.not_holds_nextSerial (heq ▸ hheld)
      rw [Store.movedOut, holds_swapped hcreated.toWellFormed hnull hstill, if_neg hsb,
        if_neg hsn, Store.created, holds_tell, holds_addHandle] at hnew
      exact hnew (Or.inl hheld)
    have hbetween : ¬ (start.created config .pointer (Slot.null second.scheme) .created).Holds s
        address := fun hheld =>
      hstart ((Decline.created rfl (Slot.target?_null second.scheme)).holds hsite hheld)
    obtain ⟨created, hshown, -⟩ := hcreate.shows h htracking
    obtain ⟨moved, hlater, -⟩ := hout.shows hcreated htracking
    intro moment hmem
    rw [hlater, hshown, hmoments, List.nil_append, List.mem_cons, List.mem_append] at hmem
    rcases hmem with rfl | hmem | hmem
    · exact hstart
    · exact List.eq_of_mem_replicate hmem ▸ hbetween
    · exact List.eq_of_mem_replicate hmem ▸ hnew
  exact hswapped.decline htracking .released

/-- An alteration breaks nothing. -/
theorem altered (h : start.Consistent config) (htracking : config.build.tracking = true)
    (hmoments : start.moments = []) (haltered : Alteration config start after) :
    Stretches config start after := by
  cases haltered with
  | renew found scheme_eq settled provenance_eq =>
    exact renewed h htracking hmoments found scheme_eq settled provenance_eq
  | move found_first found_second first_form second_form scheme_eq ne =>
    exact movedTo h htracking hmoments found_first found_second first_form second_form scheme_eq ne
  | swap found_first found_second form_eq scheme_eq =>
    exact single h htracking hmoments (.swap found_first found_second form_eq scheme_eq)
  | vacate found form_eq => exact vacated h htracking hmoments found form_eq

end Stretches

/-! ## Deeds -/

/-- What a single command does: handles hold what they hold in one stretch, and the entries of new
handles are as given. -/
structure Deed (config : Config) (given : String → Address → Serial → Provenance → Prop)
    (start store : Store) :
    Prop extends Stretches config start store where
  /-- Every handle that is new and holds a referent has an entry that is given. -/
  news : ∀ referent ∈ store.referents, ∀ s ∉ start.serials, store.Holds s referent.address →
    ∃ origin, referent.roster.provenance? s = some origin ∧
      given referent.name referent.address s origin

/-- The entry of a handle that has taken over from another one. -/
def TookOver (_ : String) (_ : Address) (_ : Serial) (origin : Provenance) : Prop :=
  ∃ source, origin = .moved source

namespace Deed

/-- What is given may be more. -/
theorem imp (h : Deed config given start store)
    (hgiven : ∀ name address s origin,
      given name address s origin → given' name address s origin) :
    Deed config given' start store where
  toStretches := h.toStretches
  news := by
    intro referent hmem s hnew hholds
    obtain ⟨origin, horigin, hentry⟩ := h.news referent hmem s hnew hholds
    exact ⟨origin, horigin, hgiven _ _ s origin hentry⟩

/-- A deed after which no new handle exists brings no news. -/
theorem of_serials (h : Stretches config start store)
    (hserials : ∀ s ∈ store.serials, s ∈ start.serials) : Deed config given start store where
  toStretches := h
  news := fun _ _ s hnew hholds => absurd (hserials s (mem_serials_of_holds hholds)) hnew

/-- A deed remains one when handles go away afterwards. -/
theorem decline (h : Deed config given start before) (hlists : config.listsHolders = true)
    (hdecline : Decline config before after) : Deed config given start after := by
  refine ⟨h.toStretches.decline (tracking_of_listsHolders hlists) hdecline, ?_⟩
  induction hdecline with
  | refl => exact h.news
  | @tail between after hbefore hact ih =>
    intro referent hmem s hnew hholds
    have hconsistent := (h.toStretches.decline (tracking_of_listsHolders hlists) hbefore).consistent
    have hsite := (hact.1.consistent hconsistent).isSite _ (List.mem_map_of_mem hmem)
    have hheld := hact.2 s referent.address hsite hholds
    obtain ⟨old, hold, hname, haddress, ⟨-, hentry⟩ | ⟨hcame, -⟩⟩ :=
      hact.1.accounts hconsistent hlists referent hmem s hholds
    · rw [hentry, ← hname]
      rw [← haddress] at hheld ⊢
      exact ih old hold s hnew hheld
    · exact absurd hheld hcame

/-- A decline is a deed that brings no news. -/
theorem of_decline (h : start.Consistent config) (hlists : config.listsHolders = true)
    (hmoments : start.moments = []) (hdecline : Decline config start store) :
    Deed config given start store :=
  (of_serials (.refl h hmoments) fun _ hmem => hmem).decline hlists hdecline

/-- Handles that come in an act that creates none on a referent have taken over from others. -/
theorem of_accounts {between : Store} (h : Stretches config start store)
    (hbefore : Decline config start between)
    (haccounts : Accounts (fun _ _ => False) between store) :
    Deed config TookOver start store where
  toStretches := h
  news := by
    intro referent hmem s hnew hholds
    have hsite := h.consistent.isSite _ (List.mem_map_of_mem hmem)
    obtain ⟨-, -, -, -, ⟨hheld, -⟩ | ⟨-, origin, horigin, hgiven | ⟨source, hsource, -⟩⟩⟩ :=
      haccounts referent hmem s hholds
    · exact absurd (mem_serials_of_holds (hbefore.holds hsite hheld)) hnew
    · exact hgiven.elim
    · exact ⟨origin, horigin, source, hsource⟩

variable (h : start.Consistent config) (hlists : config.listsHolders = true)
  (hmoments : start.moments = [])

include h hlists hmoments

/-- The creation of a handle is a deed that enters it as it was created, on a referent that was
there. -/
theorem created (hsettled : (start.nextHandle form slot).Settled start)
    (hprovenance : provenance = .created ∨
      ∃ source ∈ start.handles, source.slot = slot ∧ provenance = .copied source.serial) :
    Deed config (fun name address s origin => s = start.nextSerial ∧ slot.address = address ∧
      start.HasAt name address ∧ origin = provenance) start
      (start.created config form slot provenance) where
  toStretches := .single h (tracking_of_listsHolders hlists) hmoments (.create hsettled hprovenance)
  news := by
    intro referent hmem s hnew hholds
    have hfresh : ∀ source, provenance ≠ .moved source := by
      rcases hprovenance with rfl | ⟨source, -, -, rfl⟩
      · simp
      · simp
    obtain ⟨old, hold, hname, haddress, ⟨hheld, -⟩ | ⟨-, origin, horigin, hgiven |
        ⟨source, -, hleaves⟩⟩⟩ :=
      Accounts.created hlists h.toWellFormed hfresh referent hmem s hholds
    · exact absurd (mem_serials_of_holds hheld) hnew
    · rw [Store.created, holds_tell, holds_addHandle] at hholds
      have hcame := hholds.resolve_left fun hheld => hnew (mem_serials_of_holds hheld)
      exact ⟨origin, horigin, hgiven.1, hcame.2, ⟨old, hold, hname, haddress⟩, hgiven.2⟩
    · refine absurd ?_ hleaves.left
      exact holds_tell.mpr (holds_addHandle.mpr (Or.inl hleaves.held))

/-- Moving a value out is a deed on which the new pointer takes over. -/
theorem movedOut (hfound : start.handle? s = some handle) (hform : handle.form = .pointer) :
    Deed config TookOver start (start.movedOut config handle.scheme s) :=
  of_accounts (.movedOut h (tracking_of_listsHolders hlists) hmoments hfound hform)
    (.created rfl (Slot.target?_null _))
    (.swapped hlists (h.created_null _).toWellFormed (handle?_created_nextSerial h.toWellFormed)
      (handle?_created hfound))

/-- A change of form is a deed on which the new reference takes over. -/
theorem madeReference (hfound : start.handle? handle.serial = some handle)
    (hform : handle.form = .pointer) (hlive : handle.address ∈ start.sites) :
    Deed config TookOver start (start.madeReference config handle) :=
  of_accounts (.single h (tracking_of_listsHolders hlists) hmoments
    (.makeReference hfound hform hlive)) .refl
    (.takenOver hlists h.toWellFormed hfound rfl rfl fun _ _ hsite =>
      h.holds_setSlot_null hfound hsite)

/-- A change of form is a deed on which the new pointer takes over. -/
theorem madePointer (hfound : start.handle? handle.serial = some handle)
    (hform : handle.form = .reference) :
    Deed config TookOver start (start.madePointer config handle) :=
  of_accounts (.single h (tracking_of_listsHolders hlists) hmoments (.makePointer hfound hform))
    .refl (.takenOver hlists h.toWellFormed hfound rfl rfl fun _ _ _ => holds_removeHandle)

/-- An alteration is a deed that brings no news. -/
theorem altered (haltered : Alteration config start after) : Deed config given start after :=
  of_serials (.altered h (tracking_of_listsHolders hlists) hmoments haltered) fun _ hmem =>
    (haltered.passage h).serials_perm.mem_iff.mpr hmem

end Deed

end CountedHandles.Store
