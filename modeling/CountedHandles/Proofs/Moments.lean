import CountedHandles.Proofs.Course

/-!
# Moments

Every call that a referent receives shows the handles that exist at that moment. In builds that
track handles these moments leave nothing out: an act that changes which handles hold a site shows
the handles as it leaves them, so the moments of a course tell who held a site and in what order.
-/

namespace CountedHandles

/-- The handles that exist at one moment. -/
abbrev Moment := List Handle

/-- At some moment a handle with a given serial number holds a given address. -/
def Moment.Holds (moment : Moment) (serial : Serial) (address : Address) : Prop :=
  ∃ handle ∈ moment, handle.serial = serial ∧ handle.address = address

/-- The moment that an event shows, if it shows one. -/
def Event.moment? : Event → Option Moment
  | .created _ => none
  | .call _ handles => some handles
  | .log _ => none

namespace Store

variable {config : Config} {store before after : Store} {name : String} {name? : Option String}
  {message : Message} {messages : List Message} {a b s : Serial} {first second handle : Handle}
  {form : Form} {slot : Slot} {provenance : Provenance} {address : Address} {start : Moment}
  {count : Nat}

/-- The moments that the events of a store show. -/
def moments (store : Store) : List Moment :=
  store.events.filterMap Event.moment?

/-! ## What acts show -/

/-- An event that shows no moment adds none. -/
theorem moments_of_events {event : Event} (hevents : after.events = before.events ++ [event])
    (h : event.moment? = none) : after.moments = before.moments := by
  rw [moments, hevents, List.filterMap_append, List.filterMap_cons_none h, List.filterMap_nil,
    List.append_nil, moments]

/-- In builds that track handles a referent that is told something shows the handles each time. -/
theorem moments_tell (htracking : config.build.tracking = true) :
    (store.tell config name? messages).moments = store.moments ++
      List.replicate (if name?.isSome then messages.length else 0) store.handles := by
  cases name? with
  | none => simp
  | some name =>
    induction messages generalizing store with
    | nil => simp
    | cons message messages ih =>
      have hreceived : (store.receive config name message).moments =
          store.moments ++ [store.handles] := by
        rw [moments, receive, List.filterMap_append, ← moments]
        cases hkeeps : config.kind.keepsRoster <;> cases message <;>
          simp [Config.eventsOf, htracking, hkeeps, Event.moment?]
      rw [tell_cons, ih, hreceived, handles_receive, List.append_assoc]
      simp [List.replicate_succ]

/-- From one store to another only the handles as they are in the end are shown, and they are shown
unless all sites are held as before. -/
def Shows (before after : Store) : Prop :=
  ∃ count, after.moments = before.moments ++ List.replicate count after.handles ∧
    (count = 0 → ∀ s address, address.isSite = true →
      (after.Holds s address ↔ before.Holds s address))

namespace Shows

/-- Where no handle changes and no referent is called there is nothing to show. -/
theorem of_handles (hhandles : after.handles = before.handles)
    (hmoments : after.moments = before.moments) : Shows before after :=
  ⟨0, by rw [hmoments, List.replicate_zero, List.append_nil], fun _ _ _ _ => by
    simp only [Holds, hhandles]⟩

/-- A referent that is told of a change shows the handles after it. -/
theorem tell (htracking : config.build.tracking = true)
    (hmoments : store.moments = before.moments) (hmessages : messages ≠ [])
    (hsame : name? = none → ∀ s address, address.isSite = true →
      (store.Holds s address ↔ before.Holds s address)) :
    Shows before (store.tell config name? messages) := by
  refine ⟨_, by rw [moments_tell htracking, hmoments, handles_tell],
    fun hzero s address hsite => ?_⟩
  rw [holds_tell]
  cases name? with
  | none => exact hsame rfl s address hsite
  | some name =>
    rw [Option.isSome_some, if_pos rfl, List.length_eq_zero_iff] at hzero
    exact absurd hzero hmessages

/-- A new handle is shown if it holds a referent. -/
theorem created (htracking : config.build.tracking = true) (h : store.WellFormed)
    (hsettled : (store.nextHandle form slot).Settled store)
    (hmoments : store.moments = before.moments)
    (hsame : store.nameAt? slot = none → store.handles = before.handles) :
    Shows before (store.created config form slot provenance) := by
  have hadded : (store.addHandle form slot).moments = before.moments :=
    (@moments_of_events store (store.addHandle form slot) (.created (store.nextHandle form slot))
      rfl rfl).trans hmoments
  refine tell htracking hadded (by cases provenance <;> simp [Provenance.messages]) ?_
  intro hnone s address hsite
  have hne : slot.address ≠ address := by
    rintro rfl
    rcases hsettled with ⟨-, hvacant⟩ | hlive
    · have hleads := Slot.target?_of_isSite hsite
      exact absurd (hleads.symm.trans hvacant) (by simp)
    · exact h.nameAt?_eq_none_iff.mp hnone hlive
  rw [holds_addHandle]
  simp only [hne, and_false, or_false]
  simp only [Holds, hsame hnone]

/-- Handles that exchange different referents are shown. -/
theorem swapped (htracking : config.build.tracking = true) (h : store.WellFormed)
    (ha : store.handle? a = some first) (hb : store.handle? b = some second) :
    Shows store (store.swapped config a b) := by
  have hexchanged : (store.exchangeSlots a b).moments = store.moments := by
    rw [moments, events_exchangeSlots, moments]
  obtain ⟨hmine, htheirs⟩ := target?_exchangeSlots h ha hb
  simp only [Store.swapped, hmine, htheirs]
  split
  · rename_i hsame
    refine ⟨0, by rw [hexchanged, List.replicate_zero, List.append_nil],
      fun _ s address hsite => ?_⟩
    have hfirst := @holds_iff_of_handle? store a first address h.nodup_serials ha
    have hsecond := @holds_iff_of_handle? store b second address h.nodup_serials hb
    have hboth : second.address = address ↔ first.address = address := by
      by_cases hlive : address ∈ store.sites
      · obtain ⟨referent, hmem, rfl⟩ := List.mem_map.mp hlive
        rw [Handle.address, ← h.nameAt?_eq_name_iff hmem, hsame, h.nameAt?_eq_name_iff hmem]
        rfl
      · rw [← hfirst, ← hsecond]
        simp only [h.not_holds_of_free hsite hlive]
    rw [holds_exchangeSlots h.nodup_serials ha hb]
    grind
  · rename_i hdiffer
    refine ⟨(if (store.nameAt? second.slot).isSome then 1 else 0) +
      if (store.nameAt? first.slot).isSome then 1 else 0, ?_, fun hzero => ?_⟩
    · rw [moments_tell htracking, moments_tell htracking, hexchanged, handles_tell, handles_tell,
        List.append_assoc, List.replicate_append_replicate, List.length_singleton,
        List.length_singleton, handles_tell]
    · cases hmineName : store.nameAt? second.slot <;>
        cases htheirsName : store.nameAt? first.slot <;> simp_all

/-- A handle that is released shows the others if it held a referent. -/
theorem released (htracking : config.build.tracking = true) (h : store.WellFormed) :
    Shows store (store.released config s) := by
  refine tell htracking rfl (by simp) fun hnone other address hsite => ?_
  rw [holds_removeHandle, and_iff_left_iff_imp]
  rintro hholds rfl
  have hfree : address ∉ store.sites := by
    obtain ⟨handle, hmem, rfl, rfl⟩ := hholds
    rwa [target?_of_handle? (handle?_of_mem h.nodup_serials hmem), h.nameAt?_eq_none_iff] at hnone
  exact h.not_holds_of_free hsite hfree hholds

end Shows

/-- Every act shows what it changes. -/
theorem Act.shows (hact : Act config before after) (h : before.Consistent config)
    (htracking : config.build.tracking = true) : Shows before after := by
  cases hact with
  | create settled _ => exact .created htracking h.toWellFormed settled rfl fun _ => rfl
  | swap found_first found_second _ _ =>
    exact .swapped htracking h.toWellFormed found_first found_second
  | release serial => exact .released htracking h.toWellFormed
  | @makeReference handle found form_eq live =>
    have hvacant : ({ handle with slot := Slot.null handle.scheme } : Handle).Settled before :=
      Or.inl ⟨form_eq, Slot.target?_null _⟩
    have hbetween : ((before.setSlot handle.serial (Slot.null handle.scheme)).addEvent
        (.log (.releasing handle.address .reference))).WellFormed :=
      (h.setSlot found hvacant).addEvent
    refine .created htracking hbetween (Or.inr live) (moments_of_events rfl rfl) fun hnone => ?_
    exact absurd live (hbetween.nameAt?_eq_none_iff.mp hnone)
  | @makePointer handle found form_eq =>
    have hbetween : ((before.removeHandle handle.serial).addEvent
        (.log (.releasing handle.address .pointer))).WellFormed := h.removeHandle.addEvent
    have hlive : handle.address ∈ before.sites := h.live_of_reference found form_eq
    refine .created htracking hbetween (Or.inr hlive) (moments_of_events rfl rfl) fun hnone => ?_
    exact absurd hlive (hbetween.nameAt?_eq_none_iff.mp hnone)
  | record entry => exact .of_handles rfl (moments_of_events rfl rfl)
  | addReferent _ _ _ => exact .of_handles rfl rfl
  | removeReferent _ _ => exact .of_handles rfl rfl
  | updateReferent _ => exact .of_handles rfl rfl

/-- The last of the moments so far shows who holds which site now. -/
def UpToDate (start : Moment) (store : Store) : Prop :=
  ∃ past last, start :: store.moments = past ++ [last] ∧ ∀ s address, address.isSite = true →
    (Moment.Holds last s address ↔ store.Holds s address)

/-- Before anything is shown the start is up to date. -/
theorem UpToDate.refl (hmoments : store.moments = []) : UpToDate store.handles store :=
  ⟨[], store.handles, by rw [hmoments, List.nil_append], fun _ _ _ => Iff.rfl⟩

/-- What acts show keeps the moments up to date. -/
theorem UpToDate.act (h : UpToDate start before) (hact : Shows before after) :
    UpToDate start after := by
  obtain ⟨past, last, hsplit, hlast⟩ := h
  obtain ⟨count, hmoments, hsame⟩ := hact
  cases count with
  | zero =>
    refine ⟨past, last, ?_, fun s address hsite => ?_⟩
    · rw [hmoments, List.replicate_zero, List.append_nil, hsplit]
    · rw [hlast s address hsite, hsame rfl s address hsite]
  | succ count =>
    refine ⟨start :: (before.moments ++ List.replicate count after.handles), after.handles, ?_,
      fun _ _ _ => Iff.rfl⟩
    rw [hmoments, List.replicate_succ', List.cons_append, List.append_assoc]

/-! ## Unbroken possession -/

/-- Every handle that holds an address now has held it from some moment on without a break, and did
not hold it before that. -/
def Unbroken (start : Moment) (address : Address) (store : Store) : Prop :=
  ∀ s, store.Holds s address → ∃ earlier later, start :: store.moments = earlier ++ later ∧
    (∀ moment ∈ earlier, ¬ moment.Holds s address) ∧ ∀ moment ∈ later, moment.Holds s address

namespace Unbroken

/-- Nothing is broken at the start. -/
theorem refl (hmoments : store.moments = []) : Unbroken store.handles address store := by
  intro s hholds
  refine ⟨[], [store.handles], by rw [hmoments, List.nil_append], by simp, fun moment hmem => ?_⟩
  rw [List.mem_singleton] at hmem
  exact hmem ▸ hholds

/-- No break comes about unless a handle returns to what it held before. -/
theorem act (h : Unbroken start address before) (hact : Shows before after)
    (hreturn : ∀ s, after.Holds s address → ¬ before.Holds s address →
      ∀ moment ∈ start :: before.moments, ¬ moment.Holds s address) :
    Unbroken start address after := by
  obtain ⟨count, hmoments, -⟩ := hact
  intro s hholds
  have hshown : ∀ moment : Moment, moment ∈ List.replicate count after.handles →
      moment.Holds s address :=
    fun moment hmem => List.eq_of_mem_replicate hmem ▸ hholds
  rw [hmoments, ← List.cons_append]
  by_cases hheld : before.Holds s address
  · obtain ⟨earlier, later, hsplit, hearlier, hlater⟩ := h s hheld
    refine ⟨earlier, later ++ List.replicate count after.handles, ?_, hearlier, ?_⟩
    · rw [hsplit, List.append_assoc]
    · exact fun moment hmem => (List.mem_append.mp hmem).elim (hlater moment) (hshown moment)
  · exact ⟨_, _, rfl, hreturn s hholds hheld, hshown⟩

/-- The first act breaks nothing. -/
theorem single (hmoments : before.moments = []) (hact : Shows before after) :
    Unbroken before.handles address after := by
  refine (refl hmoments).act hact fun s _ hnew moment hmem => ?_
  rw [hmoments, List.mem_singleton] at hmem
  exact hmem ▸ hnew

/-- An act breaks nothing either if handles have only come before it. -/
theorem pair {between : Store} (hmoments : before.moments = []) (hfirst : Shows before between)
    (hgrows : ∀ s, before.Holds s address → between.Holds s address)
    (hact : Shows between after) : Unbroken before.handles address after := by
  refine (single hmoments hfirst).act hact fun s _ hnew moment hmem => ?_
  obtain ⟨count, hshown, -⟩ := hfirst
  rw [hshown, hmoments, List.nil_append, List.mem_cons] at hmem
  rcases hmem with rfl | hmem
  · exact fun hheld => hnew (hgrows s hheld)
  · exact List.eq_of_mem_replicate hmem ▸ hnew

/-- A handle that holds an address in the beginning and in the end has held it all the time. -/
theorem holds_of_start (h : Unbroken start address store) (hstart : start.Holds s address)
    (hholds : store.Holds s address) :
    ∀ moment ∈ start :: store.moments, moment.Holds s address := by
  obtain ⟨earlier, later, hsplit, hearlier, hlater⟩ := h s hholds
  cases earlier with
  | nil =>
    rw [hsplit]
    exact hlater
  | cons moment earlier =>
    rw [List.cons_append, List.cons.injEq] at hsplit
    exact absurd (hsplit.1 ▸ hstart) (hearlier moment List.mem_cons_self)

/-- A handle that holds an address in the end does not leave it in between. -/
theorem holds_next {past later : List Moment} {moment next : Moment}
    (h : Unbroken start address store) (hholds : store.Holds s address)
    (hsplit : start :: store.moments = past ++ moment :: next :: later)
    (hmoment : moment.Holds s address) : next.Holds s address := by
  obtain ⟨earlier, rest, hunbroken, hearlier, hrest⟩ := h s hholds
  have hpairwise : (earlier ++ rest).Pairwise fun first second : Moment =>
      first.Holds s address → second.Holds s address := by
    refine List.pairwise_append.mpr ⟨?_, ?_, fun _ _ second hsecond _ => hrest second hsecond⟩
    · exact List.pairwise_of_forall_mem_list fun first hfirst _ _ hheld =>
        absurd hheld (hearlier first hfirst)
    · exact List.pairwise_of_forall_mem_list fun _ _ second hsecond _ => hrest second hsecond
  rw [← hunbroken, hsplit] at hpairwise
  have hpair := (List.pairwise_append.mp hpairwise).2.1
  exact (List.pairwise_cons.mp hpair).1 next List.mem_cons_self hmoment

end Unbroken

end Store

end CountedHandles
