import CountedHandles.Proofs.Closing
import CountedHandles.Proofs.Ledgers

/-!
# The protocol of calls

In builds that track handles a referent could do without any knowledge of handles: the calls that it
receives are always in order, keep its ledger balanced even in the middle of operations, and between
operations leave it with exactly the handles that hold it. Every act informs every referent in this
way, and therefore every run does.
-/

namespace CountedHandles

/-- What a referent with a given name is called for by an event, if it is called at all. -/
def Event.messageTo? (name : String) (event : Event) : Option Message :=
  event.call?.bind fun call => if call.referent = name then some call.message else none

namespace Store

variable {config : Config} {store before after : Store} {name : String} {name? : Option String}
  {messages : List Message} {event : Event} {a b s : Serial} {first second handle : Handle}
  {form : Form} {slot : Slot} {provenance : Provenance} {referent : Referent}

/-! ## Targets -/

/-- The target of a handle is the referent to which its content leads, if there is such a handle. -/
theorem target?_eq_bind :
    store.target? s = (store.handle? s).bind fun handle => store.nameAt? handle.slot := by
  cases hfound : store.handle? s with
  | none => exact target?_of_handle?_eq_none hfound
  | some handle => exact target?_of_handle? hfound

/-- Targets depend on the handles and on the referents alone. -/
theorem target?_congr (hhandles : after.handles = before.handles)
    (hreferents : after.referents = before.referents) : after.target? s = before.target? s := by
  simp only [target?_eq_bind, handle?, hhandles, nameAt?_congr hreferents]

/-- Calls change no target. -/
@[simp] theorem target?_tell : (store.tell config name? messages).target? s = store.target? s := by
  simp only [target?_eq_bind, handle?_tell, nameAt?_tell]

/-- A new handle has the target to which it was made to lead, and all others keep theirs. -/
theorem WellFormed.target?_created (h : store.WellFormed) :
    (store.created config form slot provenance).target? s =
      if s = store.nextSerial then store.nameAt? slot else store.target? s := by
  rw [created, target?_tell]
  split
  · rename_i hserial
    rw [hserial, h.target?_addHandle]
  · rename_i hserial
    have hnew : (store.nextSerial == s) = false := by simpa using Ne.symm hserial
    have hfound : (store.addHandle form slot).handle? s = store.handle? s := by
      rw [handle?, handles_addHandle, List.find?_append, ← handle?]
      simp [nextHandle, hnew]
    rw [target?_eq_bind, hfound, target?_eq_bind]
    simp only [nameAt?_congr referents_addHandle]

/-- Two handles that exchange their contents exchange their targets. -/
theorem WellFormed.target?_swapped (h : store.WellFormed) (ha : store.handle? a = some first)
    (hb : store.handle? b = some second) :
    (store.swapped config a b).target? s =
      if s = a then store.target? b else if s = b then store.target? a else store.target? s := by
  have hexchanged : (store.swapped config a b).target? s = (store.exchangeSlots a b).target? s := by
    simp only [swapped]
    split <;> simp
  obtain ⟨hmine, htheirs⟩ := target?_exchangeSlots h ha hb
  rw [hexchanged]
  split
  · rename_i hserial
    rw [hserial, hmine, target?_of_handle? hb]
  split
  · rename_i hserial
    rw [hserial, htheirs, target?_of_handle? ha]
  · rename_i hsa hsb
    have hfound : (store.exchangeSlots a b).handle? s = store.handle? s := by
      cases hs : store.handle? s with
      | none =>
        rw [handle?_eq_none_iff, serials_exchangeSlots]
        exact handle?_eq_none_iff.mp hs
      | some other => exact handle?_exchangeSlots_of_ne h.nodup_serials ha hb hs hsa hsb
    rw [target?_eq_bind, hfound, target?_eq_bind]
    simp only [nameAt?_congr referents_exchangeSlots]

/-- The target of a handle is the referent whose address it holds. -/
theorem WellFormed.target?_eq_some_iff (h : store.WellFormed) :
    store.target? s = some name ↔
      ∃ referent ∈ store.referents, referent.name = name ∧ store.Holds s referent.address := by
  cases hfound : store.handle? s with
  | none =>
    rw [target?_of_handle?_eq_none hfound]
    simp only [reduceCtorEq, false_iff, not_exists, not_and]
    rintro referent - - ⟨handle, hmem, rfl, -⟩
    exact handle?_eq_none_iff.mp hfound (List.mem_map_of_mem hmem)
  | some handle =>
    rw [target?_of_handle? hfound, h.nameAt?_eq_some_iff]
    simp only [holds_iff_of_handle? h.nodup_serials hfound]
    exact exists_congr fun referent => and_congr_right fun _ => and_congr_right fun _ => eq_comm

/-- A handle that is taken out has no target, and all others keep theirs. -/
theorem target?_removeHandle :
    (store.removeHandle a).target? s = if s = a then none else store.target? s := by
  split
  · rename_i hserial
    refine target?_of_handle?_eq_none (handle?_eq_none_iff.mpr ?_)
    simp [hserial]
  · rename_i hserial
    rw [target?_eq_bind, handle?_removeHandle hserial, target?_eq_bind]
    simp only [nameAt?_congr referents_removeHandle]

/-- A handle that is emptied has no target, and all others keep theirs. -/
theorem target?_setSlot_null (hnodup : store.serials.Nodup) {scheme : Scheme} :
    (store.setSlot a (Slot.null scheme)).target? s = if s = a then none else store.target? s := by
  have hnames : ∀ slot, (store.setSlot a (Slot.null scheme)).nameAt? slot = store.nameAt? slot :=
    fun slot => nameAt?_congr referents_setSlot
  rw [target?_eq_bind, target?_eq_bind]
  simp only [hnames]
  cases hfound : store.handle? s with
  | none =>
    have hnone : (store.setSlot a (Slot.null scheme)).handle? s = none := by
      rw [handle?_eq_none_iff, serials_setSlot]
      exact handle?_eq_none_iff.mp hfound
    simp [hnone]
  | some handle =>
    rw [handle?_setSlot hnodup hfound]
    split
    · simp
    · rfl

/-! ## What referents hear -/

/-- What the referent with a name has been called for. -/
def heard (store : Store) (name : String) : List Message :=
  store.events.filterMap (Event.messageTo? name)

/-- The handles whose target is the referent with a name. -/
def attachedTo (store : Store) (name : String) : Finset Serial :=
  (store.serials.filter fun serial => store.target? serial = some name).toFinset

/-- The ledger of a referent that has been told of all handles that hold it. -/
def ledger (store : Store) (name : String) : Ledger :=
  .settled (store.attachedTo name)

/-- The attached handles are those whose target is the referent. -/
theorem mem_attachedTo : s ∈ store.attachedTo name ↔ store.target? s = some name := by
  rw [attachedTo, List.mem_toFinset, List.mem_filter, decide_eq_true_eq, and_iff_right_iff_imp]
  intro htarget
  rw [target?_eq_bind, Option.bind_eq_some_iff] at htarget
  obtain ⟨handle, hfound, -⟩ := htarget
  exact mem_serials_of_handle? hfound

/-- The ledger of a referent depends on the targets of handles alone. -/
theorem ledger_congr (h : ∀ s, after.target? s = some name ↔ before.target? s = some name) :
    after.ledger name = before.ledger name := by
  have hattached : after.attachedTo name = before.attachedTo name := by
    ext s
    rw [mem_attachedTo, mem_attachedTo, h]
  rw [ledger, hattached, ledger]

/-- Events that call no referent are not heard. -/
theorem heard_addEvent (h : event.call? = none) :
    (store.addEvent event).heard name = store.heard name := by
  have hsilent : event.messageTo? name = none := by rw [Event.messageTo?, h, Option.bind_none]
  rw [heard, addEvent, List.filterMap_append, List.filterMap_cons_none hsilent,
    List.filterMap_nil, List.append_nil, heard]

/-- In builds that track handles a referent hears all that it is told, and nothing else. -/
theorem heard_tell (htracking : config.build.tracking = true) :
    (store.tell config name? messages).heard name =
      store.heard name ++ if name? = some name then messages else [] := by
  cases name? with
  | none => simp
  | some told =>
    induction messages generalizing store with
    | nil => simp
    | cons message messages ih =>
      have hevents : (config.eventsOf ⟨told, message⟩ store.handles).filterMap
          (Event.messageTo? name) = if told = name then [message] else [] := by
        by_cases htold : told = name <;> cases hkeeps : config.kind.keepsRoster <;>
          cases message <;>
          simp [Config.eventsOf, htracking, hkeeps, Event.messageTo?, Event.call?, htold]
      rw [tell_cons, ih, heard, receive, List.filterMap_append, hevents, ← heard, List.append_assoc]
      by_cases htold : told = name <;> simp [htold]

/-- What a referent hears leads it from one ledger to another. -/
def Informs (name : String) (before after : Store) : Prop :=
  ∃ sent, after.heard name = before.heard name ++ sent ∧
    (before.ledger name).Follows sent (after.ledger name)

namespace Informs

/-- A referent need not hear anything if its handles stay. -/
theorem of_target? (hheard : after.heard name = before.heard name)
    (htarget : ∀ s, after.target? s = some name ↔ before.target? s = some name) :
    Informs name before after :=
  ⟨[], by rw [hheard, List.append_nil], by rw [ledger_congr htarget]; exact .refl⟩

/-- What is heard on two ways is heard on both together. -/
theorem trans {between : Store} (h : Informs name before between)
    (hnext : Informs name between after) : Informs name before after := by
  obtain ⟨sent, hheard, hfollows⟩ := h
  obtain ⟨later, hlater, hlaterFollows⟩ := hnext
  exact ⟨sent ++ later, by rw [hlater, hheard, List.append_assoc], hfollows.append hlaterFollows⟩

/-- The serial number that comes next is attached to no referent. -/
theorem notMem_nextSerial (h : store.WellFormed) :
    store.nextSerial ∉ store.attachedTo name := by
  rw [mem_attachedTo, target?_of_handle?_eq_none (handle?_eq_none_iff.mpr h.nextSerial_notMem)]
  simp

/-- A referent is informed of a new handle that it has to count. -/
theorem created (htracking : config.build.tracking = true) (h : store.WellFormed)
    (hprovenance : provenance = .created ∨
      ∃ source ∈ store.handles, source.slot = slot ∧ provenance = .copied source.serial) :
    Informs name store (store.created config form slot provenance) := by
  have hheard : (store.created config form slot provenance).heard name = store.heard name ++
      if store.nameAt? slot = some name then provenance.messages store.nextSerial else [] := by
    have hadded : (store.addHandle form slot).heard name = store.heard name :=
      @heard_addEvent store name (.created (store.nextHandle form slot)) rfl
    rw [Store.created, heard_tell htracking, hadded]
  have hfresh := @notMem_nextSerial store name h
  by_cases hname : store.nameAt? slot = some name
  · have hattached : (store.created config form slot provenance).attachedTo name =
        insert store.nextSerial (store.attachedTo name) := by
      ext s
      rw [mem_attachedTo, h.target?_created, Finset.mem_insert, mem_attachedTo]
      split <;> simp_all
    refine ⟨provenance.messages store.nextSerial, by rw [hheard, if_pos hname], ?_⟩
    rw [ledger, ledger, hattached]
    rcases hprovenance with rfl | ⟨source, hmem, rfl, rfl⟩
    · exact .register hfresh
    · have hsource : source.serial ∈ store.attachedTo name := by
        rw [mem_attachedTo, target?_of_handle? (handle?_of_mem h.nodup_serials hmem), hname]
      exact .copy hsource hfresh
  · refine of_target? (by rw [hheard, if_neg hname, List.append_nil]) fun s => ?_
    rw [h.target?_created]
    split
    · rename_i hserial
      rw [mem_attachedTo] at hfresh
      simp [hserial, hname, hfresh]
    · rfl

/-- Two referents that exchange handles are informed of it. -/
theorem swapped (htracking : config.build.tracking = true) (h : store.WellFormed)
    (ha : store.handle? a = some first) (hb : store.handle? b = some second) :
    Informs name store (store.swapped config a b) := by
  have htarget : ∀ s, (store.swapped config a b).target? s =
      if s = a then store.target? b else if s = b then store.target? a else store.target? s :=
    fun s => h.target?_swapped ha hb
  have hexchanged : (store.exchangeSlots a b).heard name = store.heard name := by simp [heard]
  obtain ⟨hmine, htheirs⟩ := target?_exchangeSlots h ha hb
  rw [← target?_of_handle? hb] at hmine
  rw [← target?_of_handle? ha] at htheirs
  by_cases hsame : store.target? b = store.target? a
  · refine of_target? ?_ fun s => ?_
    · rw [Store.swapped, hmine, htheirs, if_pos hsame, hexchanged]
    · rw [htarget]
      split
      · rename_i hserial
        rw [hserial, hsame]
      split
      · rename_i hserial
        rw [hserial, hsame]
      · rfl
  · have hheard : (store.swapped config a b).heard name = store.heard name ++
        (if store.target? b = some name then [.notice (.move b a)] else []) ++
        if store.target? a = some name then [.notice (.move a b)] else [] := by
      simp only [Store.swapped, hmine, htheirs, if_neg hsame, heard_tell htracking, hexchanged]
    have hab : a ≠ b := by
      rintro rfl
      exact hsame rfl
    by_cases hb' : store.target? b = some name
    · have ha' : store.target? a ≠ some name := fun heq => hsame (hb'.trans heq.symm)
      have hattached : (store.swapped config a b).attachedTo name =
          insert a ((store.attachedTo name).erase b) := by
        ext s
        rw [mem_attachedTo, htarget, Finset.mem_insert, Finset.mem_erase, mem_attachedTo]
        grind
      refine ⟨[.notice (.move b a)], by simp [hheard, ha', hb'], ?_⟩
      rw [ledger, ledger, hattached]
      exact .move (mem_attachedTo.mpr hb') fun hmem => ha' (mem_attachedTo.mp hmem)
    by_cases ha' : store.target? a = some name
    · have hattached : (store.swapped config a b).attachedTo name =
          insert b ((store.attachedTo name).erase a) := by
        ext s
        rw [mem_attachedTo, htarget, Finset.mem_insert, Finset.mem_erase, mem_attachedTo]
        grind
      refine ⟨[.notice (.move a b)], by simp [hheard, ha', hb'], ?_⟩
      rw [ledger, ledger, hattached]
      exact .move (mem_attachedTo.mpr ha') fun hmem => hb' (mem_attachedTo.mp hmem)
    · refine of_target? (by simp [hheard, ha', hb']) fun s => ?_
      rw [htarget]
      split
      · rename_i hserial
        simp [hserial, ha', hb']
      split
      · rename_i hserial
        simp [hserial, ha', hb']
      · rfl

/-- The referent of a handle that goes away is informed of it. -/
theorem released (htracking : config.build.tracking = true) :
    Informs name store (store.released config s) := by
  have htarget : ∀ other, (store.released config s).target? other =
      if other = s then none else store.target? other := by
    intro other
    rw [Store.released, target?_tell, target?_removeHandle]
  have hheard : (store.released config s).heard name = store.heard name ++
      if store.target? s = some name then [.notice (.unregister s), .decrement] else [] := by
    rw [Store.released, heard_tell htracking]
    rfl
  by_cases hname : store.target? s = some name
  · have hattached : (store.released config s).attachedTo name =
        (store.attachedTo name).erase s := by
      ext other
      rw [mem_attachedTo, htarget, Finset.mem_erase, mem_attachedTo]
      split <;> simp_all
    refine ⟨_, by rw [hheard, if_pos hname], ?_⟩
    rw [ledger, ledger, hattached]
    exact .leave (mem_attachedTo.mpr hname)
  · refine of_target? (by rw [hheard, if_neg hname, List.append_nil]) fun other => ?_
    rw [htarget]
    split
    · rename_i hserial
      simp [hserial, hname]
    · rfl

/-- The referent of a handle that is replaced by one of another form is informed of it. -/
theorem takenOver {between : Store} (htracking : config.build.tracking = true)
    (h : store.WellFormed) (hbetween : between.WellFormed)
    (hfound : store.handle? s = some handle)
    (hreferents : between.referents = store.referents)
    (hnext : between.nextSerial = store.nextSerial)
    (hheard : between.heard name = store.heard name)
    (hemptied : ∀ other, between.target? other = if other = s then none else store.target? other) :
    Informs name store (between.created config form handle.slot (.moved s)) := by
  have hnames : between.nameAt? handle.slot = store.target? s := by
    rw [nameAt?_congr hreferents, target?_of_handle? hfound]
  have htold : (between.created config form handle.slot (.moved s)).heard name = store.heard name ++
      if store.target? s = some name then [.notice (.move s store.nextSerial)] else [] := by
    have hadded : (between.addHandle form handle.slot).heard name = between.heard name :=
      @heard_addEvent between name (.created (between.nextHandle form handle.slot)) rfl
    rw [Store.created, heard_tell htracking, hadded, hheard, hnames, hnext]
    rfl
  have hfresh := @notMem_nextSerial store name h
  have htarget : ∀ other, (between.created config form handle.slot (.moved s)).target? other =
      if other = store.nextSerial then store.target? s
      else if other = s then none else store.target? other := by
    intro other
    rw [hbetween.target?_created, hnext, hnames, hemptied]
  by_cases hname : store.target? s = some name
  · have hattached : (between.created config form handle.slot (.moved s)).attachedTo name =
        insert store.nextSerial ((store.attachedTo name).erase s) := by
      ext other
      rw [mem_attachedTo, htarget, Finset.mem_insert, Finset.mem_erase, mem_attachedTo]
      grind
    refine ⟨_, by rw [htold, if_pos hname], ?_⟩
    rw [ledger, ledger, hattached]
    exact .move (mem_attachedTo.mpr hname) hfresh
  · refine of_target? (by rw [htold, if_neg hname, List.append_nil]) fun other => ?_
    rw [mem_attachedTo] at hfresh
    rw [htarget]
    grind

end Informs

/-- Referents that come, go or change leave the targets of handles as they are. -/
theorem Informs.of_holds (hbefore : before.WellFormed) (hafter : after.WellFormed)
    (hevents : after.events = before.events)
    (hholds : ∀ s, (∃ referent ∈ after.referents, referent.name = name ∧
      after.Holds s referent.address) ↔
        ∃ referent ∈ before.referents, referent.name = name ∧ before.Holds s referent.address) :
    Informs name before after :=
  of_target? (by rw [heard, hevents, heard]) fun s => by
    rw [hafter.target?_eq_some_iff, hholds, hbefore.target?_eq_some_iff]

/-- In builds that track handles every act informs every referent. -/
theorem Act.informs (hact : Act config before after) (h : before.Consistent config)
    (htracking : config.build.tracking = true) (name : String) : Informs name before after := by
  have hafter := (hact.consistent h).toWellFormed
  cases hact with
  | create settled provenance_eq => exact .created htracking h.toWellFormed provenance_eq
  | swap found_first found_second form_eq scheme_eq =>
    exact .swapped htracking h.toWellFormed found_first found_second
  | release serial => exact .released htracking
  | makeReference found form_eq live =>
    rename_i handle
    have hvacant : ({ handle with slot := Slot.null handle.scheme } : Handle).Settled before :=
      Or.inl ⟨form_eq, Slot.target?_null _⟩
    refine .takenOver htracking h.toWellFormed (h.setSlot found hvacant).addEvent found rfl rfl
      (heard_addEvent rfl) fun other => ?_
    exact (target?_congr rfl rfl).trans (target?_setSlot_null h.nodup_serials)
  | makePointer found form_eq =>
    refine .takenOver htracking h.toWellFormed h.removeHandle.addEvent found rfl rfl
      (heard_addEvent rfl) fun other => ?_
    exact (target?_congr rfl rfl).trans target?_removeHandle
  | record entry => exact .of_target? (heard_addEvent rfl) fun s => Iff.rfl
  | addReferent new free isSite =>
    refine .of_holds h.toWellFormed hafter rfl fun s => ?_
    have hnone := @WellFormed.not_holds_of_free before _ s h.toWellFormed isSite free
    simp only [Store.addReferent, List.mem_append, List.mem_singleton]
    constructor
    · rintro ⟨referent, hmem | rfl, hname, hholds⟩
      · exact ⟨referent, hmem, hname, hholds⟩
      · exact absurd hholds hnone
    · rintro ⟨referent, hmem, hname, hholds⟩
      exact ⟨referent, Or.inl hmem, hname, hholds⟩
  | removeReferent live count_eq =>
    rename_i gone
    refine .of_holds h.toWellFormed hafter rfl fun s => ?_
    rw [(h.reflects gone live).count_eq, length_holders_eq_zero_iff] at count_eq
    constructor
    · rintro ⟨referent, hmem, hname, hholds⟩
      exact ⟨referent, List.mem_of_mem_filter hmem, hname, hholds⟩
    · rintro ⟨referent, hmem, hname, hholds⟩
      refine ⟨referent, List.mem_filter.mpr ⟨hmem, ?_⟩, hname, hholds⟩
      rw [bne_iff_ne]
      intro hsame
      rw [List.inj_on_of_nodup_map h.nodup_names hmem live hsame] at hholds
      exact count_eq s hholds
  | updateReferent unobtrusive =>
    rename_i target change
    refine .of_holds h.toWellFormed hafter rfl fun s => ?_
    have hholds (referent : Referent) {target : String} :
        (if referent.name == target then change referent else referent).name = referent.name ∧
        (if referent.name == target then change referent else referent).address =
          referent.address := by
      split
      · exact ⟨unobtrusive.name_eq referent, unobtrusive.address_eq referent⟩
      · exact ⟨rfl, rfl⟩
    simp only [Store.updateReferent, List.mem_map, exists_exists_and_eq_and, hholds]
    rfl

/-- In builds that track handles every course informs every referent. -/
theorem Consistent.informs (h : before.Consistent config) (hcourse : Course config before after)
    (htracking : config.build.tracking = true) (name : String) : Informs name before after := by
  induction hcourse with
  | refl => exact .of_target? rfl fun _ => Iff.rfl
  | tail hcourse hact ih => exact ih.trans (hact.informs (h.course hcourse) htracking name)

end Store

/-- What happened before a run could not go on. -/
def Abortion.events : Abortion → List Event
  | .violation _ _ events => events
  | .collapse => []

/-- What a referent has been called for in some steps. -/
def Step.heard (steps : List Step) (name : String) : List Message :=
  (steps.flatMap Step.events).filterMap (Event.messageTo? name)

/-- What a referent has been called for in a run, up to the very end if it could not go on. -/
def Transcript.heard (transcript : Transcript) (name : String) : List Message :=
  Step.heard transcript.steps name ++
    (transcript.abortion?.elim [] Abortion.events).filterMap (Event.messageTo? name)

namespace Session

variable {config : Config} {session : Session} {steps : List Step}

/-- What a referent hears on a course from one session follows its ledger there. -/
theorem Holding.follows {after : Store} (h : session.Sound config)
    (htracking : config.build.tracking = true)
    (hcourse : Store.Course config session.clearEvents.store after) (name : String) :
    (session.store.ledger name).Follows (after.heard name) (after.ledger name) := by
  obtain ⟨sent, hheard, hfollows⟩ := h.clearEvents.consistent.informs hcourse htracking name
  rw [hheard]
  exact hfollows

/-- The calls on a trail are in order and lead to the ledger of the session that is reached. -/
theorem Trail.follows (h : Trail config steps session) (htracking : config.build.tracking = true)
    (name : String) : Ledger.empty.Follows (Step.heard steps name) (session.store.ledger name) := by
  induction h with
  | start => exact .nil Ledger.balanced_settled
  | next trail sound course events_eq ih =>
    have hnext := trail.sound.follows htracking course name
    rw [Step.heard, List.flatMap_append, List.filterMap_append, List.flatMap_singleton, events_eq]
    exact ih.append hnext

end Session

namespace Program

/-- In builds that track handles, if a program leaves calls to handles, all calls that a referent
receives in the run are in order. -/
theorem exists_follows {program : Program} (htracking : program.config.build.tracking = true)
    (hcalls : program.LeavesCalls) (name : String) :
    ∃ last, Ledger.empty.Follows (program.run.heard name) last := by
  rw [Transcript.heard]
  cases habortion : program.run.abortion? with
  | none =>
    obtain ⟨session, htrail⟩ := exists_trail hcalls habortion
    rw [Option.elim, List.filterMap_nil, List.append_nil]
    exact ⟨_, htrail.follows htracking name⟩
  | some abortion =>
    obtain ⟨-, -, session, referent, -, -, -, htrail, violation, -, rfl⟩ :=
      exists_trail_of_abortion hcalls habortion
    have hcourse := @Store.Course.checkpoint program.config session.clearEvents.store referent
    have hlast := htrail.sound.follows htracking hcourse name
    exact ⟨_, (htrail.follows htracking name).append hlast⟩

/-- In builds that track handles, if a program leaves calls to handles: all calls that a referent
receives in the run are in order, and wherever they are broken off the ledger is balanced; wherever
the program gets, the ledger of a referent names exactly the handles that hold it and counts these.
-/
theorem calls_in_order {program : Program} (htracking : program.config.build.tracking = true)
    (hcalls : program.LeavesCalls) :
    (∀ name heard, heard <+: program.run.heard name →
      ∃ ledger, Ledger.empty.replay? heard = some ledger ∧ ledger.Balanced) ∧
    ∀ steps session, program.body = (steps, .ok session) →
      ∀ referent ∈ session.store.referents, ∃ ledger,
        Ledger.empty.replay? (Step.heard steps referent.name) = some ledger ∧
          ledger.count = ledger.attached.card ∧
          ∀ serial, serial ∈ ledger.attached ↔ session.store.Holds serial referent.address := by
  constructor
  · intro name heard hheard
    obtain ⟨last, hfollows⟩ := exists_follows htracking hcalls name
    obtain ⟨next, hnext⟩ := hfollows.of_prefix hheard
    exact ⟨next, hnext.replay?, hnext.balanced⟩
  · intro steps session hbody referent hmem
    have hreached := reached_of_body hcalls hbody
    have hfollows := (Session.Trail.of_reached hreached).follows htracking referent.name
    refine ⟨_, hfollows.replay?, rfl, fun serial => ?_⟩
    have hwell := hreached.sound.consistent.toWellFormed
    change serial ∈ session.store.attachedTo referent.name ↔ _
    rw [Store.mem_attachedTo, hwell.target?_eq_some_iff]
    constructor
    · rintro ⟨other, hother, hname, hholds⟩
      rwa [List.inj_on_of_nodup_map hwell.nodup_names hother hmem hname] at hholds
    · exact fun hholds => ⟨referent, hmem, rfl, hholds⟩

/-- A program that exchanges handles between two referents, moves a copy from one to the other and
clears one, and that leaves the referent that is destroyed first with a handle to it. -/
def protocolExample : Program where
  config := ⟨⟨true, true⟩, .recorder, .off⟩
  commands :=
    [.onReferent (.create "a" 1 none), .onReferent (.create "b" 2 none),
      .onHandle (.hold .pointer "p" .raw "a"), .onHandle (.hold .pointer "q" .raw "b"),
      .change (.swap "p" "q"), .onHandle (.copy "r" "p"), .change (.assignMove "q" "r"),
      .change (.clear "p"), .onReferent (.attach "a" "q")]

/-- In that program the calls of the second referent are in order, up to its failing check. -/
theorem calls_protocolExample :
    protocolExample.body = (protocolExample.body.1, .ok protocolExample.final) ∧
      protocolExample.run.abortion?.isSome = true ∧
      protocolExample.run.heard "b" = [.increment, .notice (.register 2), .notice (.move 2 1),
        .increment, .notice (.copy 1 3), .notice (.move 3 4), .notice (.move 4 2),
        .notice (.move 1 5), .notice (.unregister 5), .decrement] ∧
      (∃ ledger, Ledger.empty.replay? (protocolExample.run.heard "b") = some ledger ∧
        ledger.Balanced) ∧
      ∀ referent ∈ protocolExample.final.store.referents, ∃ ledger,
        Ledger.empty.replay? (Step.heard protocolExample.body.1 referent.name) = some ledger ∧
          ledger.count = ledger.attached.card ∧
          ∀ serial, serial ∈ ledger.attached ↔
            protocolExample.final.store.Holds serial referent.address := by
  have hcalls : protocolExample.LeavesCalls := by
    simp [LeavesCalls, protocolExample, Command.isCall]
  have hbody : protocolExample.body = (protocolExample.body.1, .ok protocolExample.final) := rfl
  have hexact := calls_in_order rfl hcalls
  exact ⟨hbody, by decide +kernel, by decide +kernel, hexact.1 "b" _ (List.prefix_refl _),
    hexact.2 _ _ hbody⟩

end Program

end CountedHandles
