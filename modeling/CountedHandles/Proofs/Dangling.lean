import CountedHandles.Proofs.Coverage
import CountedHandles.Proofs.Lifetimes

/-!
# No handle dangles

Whoever calls referents directly can confuse their rosters, and can raise their counts, but cannot
lower them. Then panics may arise in the middle of anything that handles do. Still no count ever is
lower than the number of handles that hold the referent, so a referent that passes its check when it
is destroyed leaves no handle behind. Nor does a count start again from zero when it has been raised
too often: the process ends before a word overflows.
-/

namespace CountedHandles

open Turn

/-- A session whose counts cover their holders. -/
def Session.Covered (session : Session) : Prop :=
  session.store.Covers session.created []

/-- A turn that has been cut short leaves a session with some property, unless it ends the run. -/
def Session.Spared (property : Session → Prop) : Stop → Session → Prop
  | .refused _, session => property session
  | .fault (.panic _), session => property session
  | .fault _, _ => True

/-- A property is left if a stronger one is. -/
theorem Session.Spared.imp {property property' : Session → Prop} {stop : Stop} {session : Session}
    (h : Session.Spared property stop session)
    (himp : ∀ session, property session → property' session) :
    Session.Spared property' stop session := by
  cases stop with
  | refused refusal => exact himp session h
  | fault fault =>
    cases fault with
    | panic cause => exact himp session h
    | violation violation => trivial
    | collapse => trivial

/-- Whatever a turn comes to, it leaves a session whose counts cover their holders. -/
def Turn.Shelters (turn : Turn α) (session : Session) : Prop :=
  turn.Ends session (fun _ => Session.Covered) (Session.Spared Session.Covered)

/-- A turn that lowers no count but through handles: a command, a call with a notice of whatever
handles or with a count to raise, or the dropping of all handles that are kept. -/
inductive Turn.Harmless (config : Config) : Turn Answer → Prop
  /-- A command, other than one that lowers a count. -/
  | command {command : Command} (raises : ∀ name, command ≠ .call (.decrement name)) :
      Harmless config (command.run config)
  /-- A count is raised. -/
  | increment (name : String) : Harmless config (ChangeCommand.act (Referent.increment name))
  /-- A notice is given, of handles of any serial numbers. -/
  | notify (name : String) (notice : Notice) :
      Harmless config (ChangeCommand.act (Referent.notify config name notice))
  /-- All handles are dropped that are kept under a name or in a set. -/
  | dropHandles : Harmless config (Session.dropHandles config)

open Session

variable {config : Config} {session after : Session} {turn : Turn α} {name : String} {s : Serial}
  {operation : Operation α} {done : α → Session → Prop} {referent : Referent}

namespace Turn

/-- An operation that is performed leaves to the session what it leaves to the store. -/
theorem ends_perform_of_leaves {property : Session → Prop} (h : operation.Leaves session.store
      (fun result after => done result { session with store := after })
      fun after => property { session with store := after }) :
    (perform operation).Ends session done (Spared property) := by
  unfold Operation.Leaves at h
  unfold Ends perform
  cases hrun : operation session.store with
  | ok result after =>
    rw [hrun] at h
    exact h
  | error fault after =>
    rw [hrun] at h
    cases fault with
    | panic cause => exact h
    | violation violation => trivial
    | collapse => trivial

/-- A handle that is released gives up no more than its own count. -/
theorem shelters_release (h : session.Covered) :
    (perform (Handle.release config s)).Shelters session :=
  ends_perform_of_leaves ((Handle.leaves_release h).imp (fun _ _ hleft => hleft.toCovers)
    fun _ hleft => hleft.toCovers)

/-- A handle is kept under a name. -/
theorem shelters_keep (h : session.Covered) : (keep config name s).Shelters session := by
  refine ends_bind (ends_get (ends_bind (ends_modify ?_)))
  cases session.serial? name with
  | none => exact ends_pure h
  | some old => exact @shelters_release _ (session.bindName name s) _ h

/-- A turn with an answer of its own leaves what it leaves without the answer. -/
theorem Shelters.answer {answer : β} (h : turn.Shelters session) :
    (turn >>= fun _ => pure answer).Shelters session :=
  ends_bind (h.imp fun _ _ hafter => ends_pure hafter)

end Turn

namespace HandleCommand

/-- A new handle is kept under a name. -/
theorem shelters_keepNew {creation : Operation Serial}
    (h : creation.Leaves session.store (fun _ after => after.Covers session.created [])
      fun after => after.Covers session.created []) :
    (keepNew config name creation).Shelters session :=
  ends_bind (ends_perform_of_leaves (h.imp (fun serial after hafter =>
    (@shelters_keep config { session with store := after } name serial hafter).answer) fun _ => id))

/-- A command that creates, moves or drops a handle keeps every count covered. -/
theorem shelters_run (command : HandleCommand) (h : session.Covered) :
    (command.run config).Shelters session := by
  have hw : session.store.WellFormed := h.toWellFormed
  have hrefuse : ∀ refusal, Spared Covered (.refused refusal) session := fun _ => h
  have hvacant {slot : Slot} (htarget : slot.target? = none) :
      (Operation.addHandle .pointer slot).Leaves session.store
        (fun _ after => after.Covers session.created [])
        fun after => after.Covers session.created [] :=
    (Handle.leaves_vacant h htarget).imp (fun _ _ hgains => hgains.toCovers) fun _ => id
  cases command with
  | null name scheme => exact shelters_keepNew (hvacant (Slot.target?_null scheme))
  | deleted name scheme => exact shelters_keepNew (hvacant (Slot.target?_deleted scheme))
  | hold form name scheme referentName =>
    refine ends_bind (ends_referent (fun referent hfound => shelters_keepNew ?_) hrefuse)
    exact (Handle.leaves_ofAddress h fun slot hslot =>
      Store.settled_of_site (Store.mem_sites_of_referent? hfound) hslot).imp
        (fun _ _ hgains => hgains.toCovers) fun _ => id
  | holdAddress form name scheme place =>
    refine ends_bind (ends_resolveFor (fun address _ hallows => shelters_keepNew ?_) hrefuse)
    exact (Handle.leaves_ofAddress h fun slot hslot => Store.settled_of_allows hallows hslot).imp
      (fun _ _ hgains => hgains.toCovers) fun _ => id
  | copy name source =>
    refine ends_bind (ends_handle (fun handle _ hstored => shelters_keepNew ?_) hrefuse)
    exact (Handle.leaves_copyAs h hstored (Or.inl rfl)).imp (fun _ _ hgains => hgains.toCovers)
      fun _ => id
  | copyReference name source =>
    refine ends_bind (ends_reference (fun handle _ hstored _ => shelters_keepNew ?_) hrefuse)
    exact (Handle.leaves_copyAs h hstored (Or.inr rfl)).imp (fun _ _ hgains => hgains.toCovers)
      fun _ => id
  | moveOut name source =>
    refine ends_bind (ends_pointer (fun handle _ hstored hform => shelters_keepNew ?_) hrefuse)
    exact (Handle.leaves_moveOut h (hform ▸ congrArg (Option.map Handle.form) hstored)).imp
      (fun _ _ hgains => hgains.toCovers) fun _ => id
  | toReference name source =>
    refine ends_bind (ends_pointer (fun handle _ hstored hform => shelters_keepNew ?_) hrefuse)
    exact Handle.leaves_toReference h hstored hform
  | toPointer name source =>
    refine ends_bind (ends_reference (fun handle _ hstored hform => ends_bind ?_) hrefuse)
    exact ends_modify (@shelters_keepNew _ (session.freeName source) _ _
      (Handle.leaves_toPointer h hstored hform))
  | rename name source =>
    refine ends_bind (ends_handle (fun handle _ _ => ends_bind (ends_modify ?_)) hrefuse)
    exact (@shelters_keep _ (session.freeName source) _ _ h).answer
  | drop name =>
    refine ends_bind (ends_handle (fun handle _ _ => ends_bind (ends_modify ?_)) hrefuse)
    exact (@shelters_release _ (session.freeName name) _ h).answer

end HandleCommand

namespace ChangeCommand

/-- An operation that changes handles is all that a command comes to. -/
theorem shelters_act {operation : Operation Unit}
    (h : operation.Leaves session.store (fun _ after => after.Covers session.created [])
      fun after => after.Covers session.created []) : (act operation).Shelters session :=
  Shelters.answer (ends_perform_of_leaves h)

/-- A bucket is replaced by a new null pointer, which is then marked. -/
theorem shelters_runReplaceBucket (h : session.Covered) :
    (runReplaceBucket config name).Shelters session := by
  have hrefuse : ∀ refusal, Spared Covered (.refused refusal) session := fun _ => h
  refine ends_bind (ends_pointer (fun doomed _ _ _ => ends_bind (ends_perform_of_leaves ?_))
    hrefuse)
  unfold Handle.requireNotDeleted
  split
  · exact Operation.leaves_panic h
  · refine Operation.leaves_pure (ends_bind (ends_perform_of_leaves ?_))
    refine (Handle.leaves_vacant h (Slot.target?_null _)).imp (fun fresh after hgains => ?_)
      fun _ => id
    refine ends_bind ((@shelters_keep config { session with store := after } name fresh
      hgains.toCovers).imp fun _ kept hkept => ?_)
    refine ends_bind (ends_pointer (fun bucket _ hstored hform => shelters_act ?_) fun _ => hkept)
    exact Handle.leaves_renew (Handle.leaves_vacant hkept (Slot.target?_deleted _))
      (hform ▸ congrArg (Option.map Handle.form) hstored)

/-- A command that changes handles keeps every count covered. -/
theorem shelters_run (command : ChangeCommand) (h : session.Covered) :
    (command.run config).Shelters session := by
  have hrefuse : ∀ refusal, Spared Covered (.refused refusal) session := fun _ => h
  have hformed {handle : Handle} (hstored : session.store.handle? handle.serial = some handle) :
      session.store.form? handle.serial = some handle.form :=
    congrArg (Option.map Handle.form) hstored
  cases command with
  | assignPointer name source =>
    refine ends_bind (ends_sameType (fun a b _ ha _ hb _ hform _ _ => shelters_act ?_) hrefuse)
    exact Handle.leaves_renew (Handle.leaves_copyAs h hb (Or.inl rfl)) (hform ▸ hformed ha)
  | assignMove name source =>
    refine ends_bind (ends_sameType (fun a b _ ha _ hb _ hform _ hpointer => shelters_act ?_)
      hrefuse)
    have hfirst := hformed ha
    have hsecond := hformed hb
    rw [hpointer rfl] at hfirst
    rw [← hform, hpointer rfl] at hsecond
    exact Handle.leaves_renew (Handle.leaves_moveOut h hsecond) hfirst
  | assignHandle name source =>
    refine ends_bind (ends_sameType (fun a b _ ha _ hb _ hform _ _ => shelters_act ?_) hrefuse)
    exact Handle.leaves_renew (Handle.leaves_copyAs h hb (Or.inl rfl)) (hform ▸ hformed ha)
  | swap name other =>
    refine ends_bind (ends_sameType (fun a b _ ha _ hb _ hform _ _ => shelters_act ?_) hrefuse)
    exact (Handle.leaves_swap h (hformed ha) (hform ▸ hformed hb)).imp
      (fun _ _ hleft => hleft.toCovers) fun _ hleft => hleft.toCovers
  | pointAt name referentName =>
    refine ends_bind (ends_referent (fun referent hfound => ends_bind ?_) hrefuse)
    refine ends_handle (fun handle _ hstored => shelters_act ?_) hrefuse
    exact Handle.leaves_renew (Handle.leaves_ofAddress h fun slot hslot =>
      Store.settled_of_site (Store.mem_sites_of_referent? hfound) hslot) (hformed hstored)
  | pointAtAddress name place =>
    refine ends_bind (ends_handle (fun handle _ hstored => ends_bind ?_) hrefuse)
    refine ends_resolveFor (fun address _ hallows => shelters_act ?_) hrefuse
    exact Handle.leaves_renew (Handle.leaves_ofAddress h fun slot hslot =>
      Store.settled_of_allows hallows hslot) (hformed hstored)
  | clear name =>
    refine ends_bind (ends_pointer (fun handle _ hstored hform => shelters_act ?_) hrefuse)
    exact Handle.leaves_renew (Handle.leaves_vacant h (Slot.target?_null _))
      (hform ▸ hformed hstored)
  | markDeleted name =>
    refine ends_bind (ends_pointer (fun handle _ hstored hform => shelters_act ?_) hrefuse)
    exact Handle.leaves_renew (Handle.leaves_vacant h (Slot.target?_deleted _))
      (hform ▸ hformed hstored)
  | vacateBucket name =>
    refine ends_bind (ends_pointer (fun handle _ hstored hform => shelters_act ?_) hrefuse)
    exact Handle.leaves_vacateBucket h (hform ▸ hformed hstored)
  | replaceBucket name => exact shelters_runReplaceBucket h

end ChangeCommand

namespace SetCommand

/-- A command on sets keeps every count covered. -/
theorem shelters_run (command : SetCommand) (h : session.Covered) :
    (command.run config).Shelters session := by
  have hrefuse : ∀ refusal, Spared Covered (.refused refusal) session := fun _ => h
  have hset {members : List Serial} {scheme : Scheme} {other : Session} (hother : other.Covered) :
      (other.setMembers members scheme).Covered := by
    cases scheme <;> exact hother
  cases command with
  | insert name =>
    refine ends_bind (ends_pointer (fun pointer _ _ _ => ends_bind ?_) hrefuse)
    refine ends_equalMember? fun member? _ => ends_bind (ends_modify ?_)
    have hfreed : (session.freeName name).Covered := h
    cases member? with
    | none => exact ends_bind (ends_modify (ends_pure (hset hfreed)))
    | some member => exact (shelters_release hfreed).answer
  | replace old name =>
    refine ends_bind (ends_pointer (fun pointer _ _ _ => ends_bind ?_) hrefuse)
    refine ends_equalMember? fun member? _ => ends_bind (ends_modify ?_)
    have hfreed : (session.freeName name).Covered := h
    cases member? with
    | none => exact ends_bind (ends_modify (ends_pure (hset hfreed)))
    | some member =>
      refine ends_bind (ends_modify (ends_bind (ends_modify ?_)))
      exact (shelters_keep (hset (hset hfreed))).answer
  | contains name =>
    refine ends_bind (ends_pointer (fun pointer _ _ _ => ends_bind ?_) hrefuse)
    exact ends_equalMember? fun _ _ => ends_pure h
  | remove name =>
    refine ends_bind (ends_pointer (fun pointer _ _ _ => ends_bind ?_) hrefuse)
    refine ends_equalMember? fun member? _ => ?_
    cases member? with
    | none => exact ends_pure h
    | some member => exact ends_bind (ends_modify (shelters_release (hset h)).answer)
  | take old name =>
    refine ends_bind (ends_pointer (fun pointer _ _ _ => ends_bind ?_) hrefuse)
    refine ends_equalMember? fun member? _ => ?_
    cases member? with
    | none => exact ends_pure h
    | some member => exact ends_bind (ends_modify (shelters_keep (hset h)).answer)

end SetCommand

/-- A referent that changes in a way that no handle depends on goes on to be covered. -/
theorem Store.Covers.updateUnobtrusive {store : Store} {created : List String}
    {change : Referent → Referent} (h : store.Covers created []) (hchange : Unobtrusive change) :
    (store.updateReferent name change).Covers created [] := by
  refine (Left.updateReferent ⟨h, .refl⟩ ?_ ?_ ?_ fun _ _ _ => Nat.le_refl _).toCovers
  · exact fun other => Prod.ext (hchange.name_eq other) (hchange.address_eq other)
  · exact fun other _ _ => Nat.le_of_eq (congrArg _ (hchange.count_eq other).symm)
  · exact fun _ other _ _ hfits => (hchange.count_eq other).symm ▸ hfits

namespace ReferentCommand

/-- A referent is destroyed and leaves no handle behind, unless its check ends the run. -/
theorem ends_runDestroy (h : session.Covered)
    (hfound : session.store.referent? name = some referent) :
    (runDestroy config name).Ends session
      (fun answer after => answer = .nothing ∧ Store.Lacks after.created referent after.store)
      fun stop after => (∀ refusal, stop ≠ .refused refusal) ∧
        Spared (fun after => Store.Lacks after.created referent after.store) stop after := by
  have hmem : referent ∈ session.store.referents := List.mem_of_find?_eq_some hfound
  have hcovered : (session.store.holders referent.address).length ≤ referent.count :=
    h.covers referent hmem
  have hdestroy : (perform (Referent.destroy config referent)).Ends session
      (fun _ after => Store.Lacks after.created referent after.store)
      (Spared fun after => Store.Lacks after.created referent after.store) :=
    ends_perform_of_leaves (Referent.leaves_destroy h hmem)
  refine ends_bind (ends_of_run (run_referent hfound) (ends_bind (ends_get (ends_bind ?_))))
  rw [decide_eq_true hcovered]
  refine ends_of_run (run_require_true _ _) (ends_bind ?_)
  refine (ends_perform_not_refused.and hdestroy).imp ?_
  rintro _ after ⟨-, hlacks⟩
  exact ends_pure ⟨rfl, hlacks⟩

/-- A command on referents keeps every count covered. -/
theorem shelters_run (command : ReferentCommand) (h : session.Covered) :
    (command.run config).Shelters session := by
  have hrefuse : ∀ refusal, Spared Covered (.refused refusal) session := fun _ => h
  cases command with
  | create name value address? =>
    refine (ends_create hrefuse).imp ?_
    rintro _ _ ⟨address, hsite, hfree, hname, rfl⟩
    exact Store.Covers.addReferent h hname hfree hsite
  | destroy name =>
    cases hfound : session.store.referent? name with
    | none =>
      exact ends_bind (ends_referent (fun referent hlive => by cases hfound ▸ hlive) hrefuse)
    | some referent =>
      refine ((ends_runDestroy h hfound).imp ?_).cut_imp ?_
      · exact fun _ after hdone => hdone.2.toCovers
      · exact fun stop after hcut => hcut.2.imp fun _ hlacks => hlacks.toCovers
  | roster name => exact ends_bind (ends_referent (fun _ _ => ends_pure h) hrefuse)
  | provenances name =>
    refine ends_bind (ends_require (fun _ => ends_bind ?_) hrefuse)
    exact ends_referent (fun _ _ => ends_pure h) hrefuse
  | printCounter name =>
    refine ends_bind (ends_referent (fun _ _ => ends_bind ?_) hrefuse)
    exact ends_require (fun _ => ends_pure h) hrefuse
  | attach name handleName =>
    refine ends_bind (ends_referent (fun referent _ => ends_bind ?_) hrefuse)
    refine ends_handle (fun handle _ _ => ends_bind (ends_modify ?_)) hrefuse
    exact ends_bind (ends_modify (ends_pure (Store.Covers.updateUnobtrusive h
      (unobtrusive_links fun links => links ++ [handle.serial]))))
  | detach handleName name index =>
    refine ends_bind (ends_referent (fun referent _ => ?_) hrefuse)
    cases referent.links[index]? with
    | none => exact ends_refuse (hrefuse _)
    | some serial =>
      refine ends_bind (ends_modify (Shelters.answer (shelters_keep ?_)))
      exact Store.Covers.updateUnobtrusive h (unobtrusive_links fun links => links.eraseIdx index)

end ReferentCommand

namespace LookCommand

/-- A command that looks at handles keeps every count covered. -/
theorem shelters_run (command : LookCommand) (h : session.Covered) :
    (command.run config).Shelters session := by
  refine ((@ends_look config session command).imp ?_).cut_imp ?_
  · rintro _ after (rfl | ⟨referent, -, value, rfl⟩)
    · exact h
    · exact Store.Covers.updateUnobtrusive h (unobtrusive_value value)
  · rintro (refusal | fault) after hunharmed
    · exact hunharmed ▸ h
    · cases fault with
      | panic cause => exact hunharmed.1 ▸ h
      | violation violation => trivial
      | collapse => trivial

end LookCommand

namespace CallCommand

/-- A count that is raised covers its holders all the more. -/
theorem shelters_increment (h : session.Covered) :
    (ChangeCommand.act (Referent.increment name)).Shelters session :=
  ChangeCommand.shelters_act ((Referent.leaves_increment ⟨h, .refl⟩).imp
    (fun _ _ hleft => hleft.toCovers) fun _ => id)

/-- A notice of whatever handles matters to no count. -/
theorem shelters_notify {notice : Notice} (h : session.Covered) :
    (ChangeCommand.act (Referent.notify config name notice)).Shelters session :=
  ChangeCommand.shelters_act ((Referent.leaves_notify ⟨h, .refl⟩).imp
    (fun _ _ hleft => hleft.toCovers) fun _ hleft => hleft.toCovers)

/-- The handles of a notice are looked up. -/
theorem ends_resolve {notice : NamedNotice} {done : Notice → Session → Prop}
    {cut : Stop → Session → Prop} (hdone : ∀ notice, done notice session)
    (hcut : ∀ refusal, cut (.refused refusal) session) :
    (resolve notice).Ends session done cut := by
  cases notice with
  | register name => exact ends_bind (ends_handle (fun _ _ _ => ends_pure (hdone _)) hcut)
  | unregister name => exact ends_bind (ends_handle (fun _ _ _ => ends_pure (hdone _)) hcut)
  | copy source destination =>
    exact ends_bind (ends_handle (fun _ _ _ => ends_bind (ends_handle
      (fun _ _ _ => ends_pure (hdone _)) hcut)) hcut)
  | move source destination =>
    exact ends_bind (ends_handle (fun _ _ _ => ends_bind (ends_handle
      (fun _ _ _ => ends_pure (hdone _)) hcut)) hcut)

/-- A call that raises a count or gives notice keeps every count covered. -/
theorem shelters_run (command : CallCommand) (hraises : ∀ name, command ≠ .decrement name)
    (h : session.Covered) : (command.run config).Shelters session := by
  have hrefuse : ∀ refusal, Spared Covered (.refused refusal) session := fun _ => h
  cases command with
  | increment referentName =>
    exact ends_bind (ends_referent (fun referent _ => shelters_increment h) hrefuse)
  | decrement referentName => exact absurd rfl (hraises referentName)
  | notify referentName notice =>
    refine ends_bind (ends_require (fun _ => ends_bind (ends_referent (fun referent _ => ?_)
      hrefuse)) hrefuse)
    exact ends_bind (ends_resolve (fun _ => shelters_notify h) hrefuse)

end CallCommand

/-- A harmless turn keeps every count covered. -/
theorem Turn.Harmless.shelters {turn : Turn Answer} (hturn : Harmless config turn)
    (h : session.Covered) : turn.Shelters session := by
  cases hturn with
  | @command command hraises =>
    cases command with
    | onReferent command => exact command.shelters_run h
    | onHandle command => exact command.shelters_run h
    | change command => exact command.shelters_run h
    | look command => exact command.shelters_run h
    | onSet command => exact command.shelters_run h
    | call command => exact command.shelters_run (fun name heq => hraises name (heq ▸ rfl)) h
    | unreadable preconditions => exact Command.ends_run_unreadable fun _ => h
  | increment name => exact CallCommand.shelters_increment h
  | notify name notice => exact CallCommand.shelters_notify h
  | dropHandles =>
    have hrelease := @Handle.leaves_releaseEach _ config _ session.keptHandles
      (fun after => after.Covers session.created []) h
    refine ends_bind (ends_get (ends_bind (ends_modify (ends_bind (ends_perform_of_leaves ?_)))))
    exact hrelease.imp (fun _ _ hafter => ends_pure hafter) fun _ => id

namespace Session

/-- A harmless step that does not end the run keeps every count covered. -/
theorem Covered.step {turn : Turn Answer} {shown : Step} (h : session.Covered)
    (hturn : Harmless config turn) (hstep : session.step config turn = .ok (shown, after)) :
    after.Covered := by
  have hends := @step_of_ends config _ _ _ _
    (hturn.shelters (Store.Covers.congr h rfl rfl rfl : session.clearEvents.Covered))
  rw [hstep] at hends
  rcases hends with ⟨_, -, hafter⟩ | ⟨_, -, hafter⟩ | ⟨_, -, hafter⟩
  · exact hafter
  · exact hafter
  · exact hafter

/-- Harmless steps keep every count covered. -/
theorem Covered.steps {turns : List (Turn Answer)} {shown : List Step} (h : session.Covered)
    (hturns : ∀ turn ∈ turns, Harmless config turn)
    (hsteps : session.steps config turns = (shown, .ok after)) : after.Covered := by
  induction turns generalizing session shown with
  | nil =>
    obtain ⟨-, heq⟩ := Prod.mk.inj hsteps
    exact Except.ok.inj heq ▸ h
  | cons turn rest ih =>
    obtain ⟨_, between, later, hstep, hrest, -⟩ := step_of_steps_cons hsteps
    rw [List.forall_mem_cons] at hturns
    exact ih (h.step hturns.1 hstep) hturns.2 hrest

/-- A destruction that does not end the run leaves no handle behind. -/
theorem Covered.step_destroy {shown : Step} (h : session.Covered)
    (hmem : referent ∈ session.store.referents)
    (hstep : session.step config (Command.run config (.onReferent (.destroy referent.name))) =
      .ok (shown, after)) :
    (shown.outcome = .answered .nothing ∨ ∃ cause, shown.outcome = .panicked cause) ∧
      referent.name ∉ after.store.names ∧
      ∀ handle ∈ after.store.handles, handle.address ≠ referent.address := by
  have hcleared : session.clearEvents.Covered := Store.Covers.congr h rfl rfl rfl
  have hfound : session.clearEvents.store.referent? referent.name = some referent :=
    hcleared.toWellFormed.referent?_of_mem hmem
  have hends := @step_of_ends config session
    (Command.run config (.onReferent (.destroy referent.name))) _ _
    (ReferentCommand.ends_runDestroy hcleared hfound)
  rw [hstep] at hends
  rcases hends with ⟨_, rfl, rfl, hlacks⟩ | ⟨refusal, -, hnot, -⟩ | ⟨cause, rfl, -, hlacks⟩
  · exact ⟨Or.inl rfl, hlacks.name_notMem, hlacks.address_ne⟩
  · exact absurd rfl (hnot refusal)
  · exact ⟨Or.inr ⟨cause, rfl⟩, hlacks.name_notMem, hlacks.address_ne⟩

/-- A call that would raise a count above its limit ends the run. -/
theorem step_increment_of_full (hfound : session.store.referent? name = some referent)
    (hfull : Referent.countLimit session.store ≤ referent.count) :
    session.step config (ChangeCommand.act (Referent.increment name)) = .error .collapse := by
  obtain ⟨after, hrun⟩ :
      ∃ after, Referent.increment name session.clearEvents.store = .error .collapse after :=
    Referent.run_increment_of_full hfound hfull
  have hact : ChangeCommand.act (Referent.increment name) session.clearEvents =
      .error (.fault .collapse) { session.clearEvents with store := after } := by
    unfold ChangeCommand.act
    rw [Turn.run_bind, Turn.perform, hrun]
  rw [Session.step, hact]

/-- Wherever harmless turns lead, whatever they confuse and however many of them panic: no count is
lower than the number of handles that hold the referent, nor higher than a word can hold as long as
the serial numbers are not, and a call that would raise it further ends the run; every handle is
null, deleted or holds a referent that exists, and a destruction that does not end the run takes the
referent away and leaves no handle that holds it. -/
theorem holders_covered_of_harmless {turns : List (Turn Answer)} {shown : List Step}
    (hturns : ∀ turn ∈ turns, Harmless config turn)
    (hsteps : Session.steps config {} turns = (shown, .ok session)) :
    (∀ referent ∈ session.store.referents,
      (session.store.holders referent.address).length ≤ referent.count) ∧
    (session.store.nextSerial < Referent.wordMax →
      ∀ referent ∈ session.store.referents, referent.count ≤ Referent.wordMax) ∧
    (∀ referent ∈ session.store.referents, Referent.countLimit session.store ≤ referent.count →
      session.step config (ChangeCommand.act (Referent.increment referent.name)) =
        .error .collapse) ∧
    (∀ handle ∈ session.store.handles, [handle.slot.isNull, handle.slot.isDeleted,
      session.store.sites.contains handle.address].count true = 1) ∧
    ∀ referent ∈ session.store.referents, ∀ step after,
      session.step config (Command.run config (.onReferent (.destroy referent.name))) =
        .ok (step, after) →
      (step.outcome = .answered .nothing ∨ ∃ cause, step.outcome = .panicked cause) ∧
        referent.name ∉ after.store.names ∧
        ∀ handle ∈ after.store.handles, handle.address ≠ referent.address := by
  have hempty : ({} : Session).Covered :=
    ⟨(@sound_empty config).consistent.toWellFormed, by simp, by simp, by simp [Store.names]⟩
  have hcovered := hempty.steps hturns hsteps
  refine ⟨hcovered.covers, hcovered.bounded, fun referent hmem => ?_,
    fun handle => hcovered.toWellFormed.exactly_one, ?_⟩
  · exact step_increment_of_full (hcovered.toWellFormed.referent?_of_mem hmem)
  exact fun referent hmem step after => hcovered.step_destroy hmem

end Session

namespace Program

/-- A program that strikes a handle out of its roster while the handle holds the referent. So it
panics when it changes contents with another handle, which in turn panics when it is dropped; then a
handle is copied, of which the roster is told once more. -/
def danglingExample : Program where
  config := ⟨⟨true, true⟩, .ordinary, .off⟩
  commands :=
    [.onReferent (.create "a" 1 none), .onReferent (.create "b" 2 none),
      .onHandle (.hold .pointer "p" .raw "a"), .onHandle (.hold .pointer "q" .raw "b"),
      .call (.notify "a" (.unregister "p")), .change (.swap "p" "q"), .onHandle (.drop "q"),
      .onHandle (.copy "r" "p"), .call (.notify "b" (.copy "p" "r")), .onHandle (.drop "p"),
      .onHandle (.drop "r")]

/-- That program panics three times and leaves one count too high, but none too low; the other
referent can be destroyed, which leaves no handle behind. -/
theorem holders_covered_danglingExample :
    danglingExample.body = (danglingExample.body.1, .ok danglingExample.final) ∧
      (danglingExample.body.1.filterMap fun step => match step.outcome with
        | .panicked cause => some cause
        | _ => none) = [.notRegistered 1, .notRegistered 2, .registeredTwice 3] ∧
      (∀ referent ∈ danglingExample.final.store.referents,
        (danglingExample.final.store.holders referent.address).length ≤ referent.count) ∧
      ∃ step after, danglingExample.final.step danglingExample.config
        (Command.run danglingExample.config (.onReferent (.destroy "b"))) = .ok (step, after) ∧
          "b" ∉ after.store.names := by
  have hturns : ∀ turn ∈ danglingExample.commands.map (Command.run danglingExample.config),
      Turn.Harmless danglingExample.config turn := by
    simp only [danglingExample, List.map_cons, List.map_nil, List.forall_mem_cons]
    refine ⟨.command ?_, .command ?_, .command ?_, .command ?_, .command ?_, .command ?_,
      .command ?_, .command ?_, .command ?_, .command ?_, .command ?_, by simp⟩
    all_goals simp
  have hbody : danglingExample.body = (danglingExample.body.1, .ok danglingExample.final) := rfl
  obtain ⟨hcounts, -, -, -, hdestroy⟩ := Session.holders_covered_of_harmless hturns hbody
  obtain ⟨referent, hmem, hname⟩ : ∃ referent ∈ danglingExample.final.store.referents,
      referent.name = "b" := by decide +kernel
  obtain ⟨⟨step, after⟩, hstep⟩ : ∃ result, danglingExample.final.step danglingExample.config
      (Command.run danglingExample.config (.onReferent (.destroy "b"))) = .ok result := ⟨_, rfl⟩
  have hgone := hdestroy referent hmem step after
  rw [hname] at hgone
  exact ⟨hbody, by decide +kernel, hcounts, step, after, hstep, (hgone hstep).2.1⟩

end Program

end CountedHandles
