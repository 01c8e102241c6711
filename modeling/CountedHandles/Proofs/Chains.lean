import CountedHandles.Proofs.Relays

/-!
# Chains of transfers

Some commands do no more than pass a value from one handle to another, or a handle from one place to
another. This file shows that a program can go on with any number of these without a single count
being touched, and puts together what is known of transfers.
-/

namespace CountedHandles

/-- A command that passes a value or a handle on. If it goes to a name, that is free or the one that
it comes from, and if it goes to a set that keeps its members, that has no equal one, so that no
other handle is dropped. -/
def Session.Passes (session : Session) : Command → Prop
  | .onHandle (.moveOut name source) => session.serial? name = none ∨ name = source
  | .onHandle (.toReference name source) => session.serial? name = none ∨ name = source
  | .onHandle (.toPointer name source) => session.serial? name = none ∨ name = source
  | .onHandle (.rename name source) => session.serial? name = none ∨ name = source
  | .change (.swap _ _) => True
  | .onReferent (.attach _ _) => True
  | .onReferent (.detach name _ _) => session.serial? name = none
  | .onSet (.insert name) => ∀ pointer, session.handle? name = some pointer →
    ∀ s ∈ session.members pointer.scheme, ∀ member, session.store.handle? s = some member →
      member.equal pointer = false
  | .onSet (.replace old name) => session.serial? old = none ∨ old = name
  | .onSet (.take old _) => session.serial? old = none
  | _ => False

/-- Commands that pass values and handles on, each in the session that the ones before it leave. -/
def Session.PassesAll (config : Config) (session : Session) : List Command → Prop
  | [] => True
  | command :: rest => session.Passes command ∧
    match session.step config (command.run config) with
    | .ok (_, after) => after.PassesAll config rest
    | .error _ => True

/-- A session has gone on without any count being touched or any referent being created. -/
structure Session.KeepsCounts (before after : Session) : Prop where
  /-- No referent has been created. -/
  created_eq : after.created = before.created
  /-- No count has been touched. -/
  store_keeps : before.store.KeepsCounts after.store

namespace Session

open Turn

variable {config : Config} {session before after : Session} {name source : String} {s : Serial}
  {store : Store} {cut : Stop → Session → Prop} {command : Command} {commands : List Command}

/-- A session that goes on without any count being touched shows the same counts. -/
theorem KeepsCounts.counts_eq (h : before.KeepsCounts after) : after.counts = before.counts := by
  rw [counts, h.created_eq, counts]
  exact List.map_congr_left fun name _ => h.store_keeps.count_eq name

/-- A handle is kept under a name, which is free or that of a handle that holds no referent, without
any count being touched. -/
theorem KeepsCounts.keep (hkeeps : before.KeepsCounts session)
    (h : session.store.Consistent config)
    (hvacant : ∀ old, session.serial? name = some old → session.store.target? old = none) :
    (Turn.keep config name s).Ends session (fun _ after => before.KeepsCounts after) cut := by
  cases hold : session.serial? name with
  | none => exact ends_keep_of_free hold ⟨hkeeps.created_eq, hkeeps.store_keeps⟩
  | some old =>
    exact ends_keep_of_taken h hold
      ⟨hkeeps.created_eq, hkeeps.store_keeps.trans (.released (hvacant old hold))⟩

/-- A handle is kept under a free name without any count being touched. -/
theorem KeepsCounts.keep_of_free (hkeeps : before.KeepsCounts session)
    (h : session.store.Consistent config) (hfree : session.serial? name = none) {answer : Answer} :
    (do Turn.keep config name s; return answer : Turn Answer).Ends session
      (fun _ after => before.KeepsCounts after) cut :=
  ends_bind ((hkeeps.keep h fun _ hold => absurd (hfree.symm.trans hold) (by simp)).imp
    fun _ _ hdone => ends_pure hdone)

/-- A handle to which a value has been passed is kept under a name, which is free or that of the
handle from which it comes, without any count being touched. -/
theorem ends_keepNew_keepsCounts {creation : Operation Serial} {handle : Handle} {form : Form}
    (hplace : ∀ old, session.serial? name = some old → old = handle.serial)
    (hrun : creation session.store = .ok session.store.nextSerial store)
    (hhands : session.store.HandsOn config handle form store) :
    (HandleCommand.keepNew config name creation).Ends session
      (fun _ after => session.KeepsCounts after) cut := by
  obtain ⟨left?, hleft, hbecomes⟩ := hhands.becomes
  have hkeeps : session.KeepsCounts { session with store := store } := ⟨rfl, hhands.keepsCounts⟩
  have hvacant : store.target? handle.serial = none := by
    cases hfound : store.handle? handle.serial with
    | none => exact Store.target?_of_handle?_eq_none hfound
    | some left =>
      have haddress := hleft left (by rw [← hfound, hbecomes.handle?_eq, Function.update_self])
      rw [Store.target?_of_handle? hfound, Store.nameAt?_of_target?
        (Slot.target?_eq_none_iff.mpr (Or.inl (Slot.isNull_iff.mpr haddress)))]
  refine ends_bind (ends_perform hrun (ends_bind ((hkeeps.keep hbecomes.consistent
    fun old hold => ?_).imp fun _ _ hdone => ends_pure hdone)))
  rw [hplace old hold]
  exact hvacant

/-- A session whose sets change touches no count. -/
theorem KeepsCounts.setMembers (hkeeps : before.KeepsCounts session) {members : List Serial}
    {scheme : Scheme} : before.KeepsCounts (session.setMembers members scheme) := by
  refine ⟨created_setMembers.trans hkeeps.created_eq, ?_⟩
  rw [store_setMembers]
  exact hkeeps.store_keeps

/-- A name that is free, or that is freed, is free afterwards. -/
theorem serial?_freeName_of_place (hplace : session.serial? name = none ∨ name = source) :
    (session.freeName source).serial? name = none := by
  rw [serial?_freeName, ite_eq_left_iff]
  exact hplace.resolve_right

/-- A name that is free, or that of a handle, stands for no other handle. -/
theorem eq_of_place {serial old : Serial} (hserial : session.serial? source = some serial)
    (hplace : session.serial? name = none ∨ name = source)
    (hold : session.serial? name = some old) : old = serial := by
  rcases hplace with hfree | rfl
  · exact absurd (hfree.symm.trans hold) (by simp)
  · exact Option.some.inj (hold.symm.trans hserial)

section Passing

variable (h : session.Sound config)

include h

/-- A command that passes a handle or its value on to a name touches no count. -/
theorem ends_passes_onHandle {command : HandleCommand}
    (hpasses : session.Passes (.onHandle command)) :
    (command.run config).Ends session (fun _ after => session.KeepsCounts after)
      fun _ after => after = session := by
  have hc := h.consistent
  have hrefuse : ∀ _ : Refusal, session = session := fun _ => rfl
  cases command with
  | moveOut name source =>
    refine ends_bind (ends_pointer (fun handle hserial hstored hform => ?_) hrefuse)
    obtain ⟨store, hrun, hhands⟩ :=
      @Store.Consistent.handsOn config _ _ .moveOut hc hstored hform.symm (by simp [Hop.gives])
    exact ends_keepNew_keepsCounts (fun _ => eq_of_place hserial hpasses) hrun hhands
  | toReference name source =>
    refine ends_bind (ends_pointer (fun handle hserial hstored hform => ?_) hrefuse)
    by_cases hsite : handle.address ∈ session.store.sites
    · obtain ⟨store, hrun, hhands⟩ :=
        @Store.Consistent.handsOn config _ _ .toReference hc hstored hform.symm fun _ => hsite
      exact ends_keepNew_keepsCounts (fun _ => eq_of_place hserial hpasses) hrun hhands
    · exact ends_bind (ends_perform_of_error (Handle.run_toReference_of_vacant hc hstored hsite)
        rfl)
  | toPointer name source =>
    refine ends_bind (ends_reference (fun handle hserial hstored hform => ?_) hrefuse)
    obtain ⟨store, hrun, hhands⟩ :=
      @Store.Consistent.handsOn config _ _ .toPointer hc hstored hform.symm (by simp [Hop.gives])
    have hfree := serial?_freeName_of_place hpasses
    have hkept := @ends_keepNew_keepsCounts config (session.freeName source) name _
      (fun _ after => after = session) _ handle _
      (fun _ hold => absurd (hfree.symm.trans hold) (by simp)) hrun hhands
    exact ends_bind (ends_modify (hkept.imp fun _ _ hkeeps =>
      ⟨hkeeps.created_eq, hkeeps.store_keeps⟩))
  | rename name source =>
    refine ends_bind (ends_handle (fun handle hserial hstored => ?_) hrefuse)
    have hkeeps : session.KeepsCounts (session.freeName source) := ⟨rfl, .refl⟩
    exact ends_bind (ends_modify (hkeeps.keep_of_free hc (serial?_freeName_of_place hpasses)))
  | _ => exact hpasses.elim

/-- Handles that exchange their contents touch no count. -/
theorem ends_passes_change {command : ChangeCommand} (hpasses : session.Passes (.change command)) :
    (command.run config).Ends session (fun _ after => session.KeepsCounts after)
      fun _ after => after = session := by
  cases command with
  | swap name other =>
    refine ends_bind (ChangeCommand.ends_sameType (fun a b _ ha _ hb _ _ _ _ => ?_) fun _ => rfl)
    exact ChangeCommand.ends_act (Handle.run_swap h.consistent ha hb) ⟨rfl, .swapped⟩
  | _ => exact hpasses.elim

/-- A handle that is moved to or from the links of a referent touches no count. -/
theorem ends_passes_onReferent {command : ReferentCommand}
    (hpasses : session.Passes (.onReferent command)) :
    (command.run config).Ends session (fun _ after => session.KeepsCounts after)
      fun _ after => after = session := by
  have hrefuse : ∀ _ : Refusal, session = session := fun _ => rfl
  cases command with
  | attach name handleName =>
    refine ends_bind (ends_referent (fun referent _ => ?_) hrefuse)
    refine ends_bind (ends_handle (fun handle _ _ => ?_) hrefuse)
    have hunobtrusive := ReferentCommand.unobtrusive_links fun links => links ++ [handle.serial]
    exact ends_bind (ends_modify (ends_bind (ends_modify (ends_pure
      ⟨rfl, .updateReferent hunobtrusive⟩))))
  | detach handleName name index =>
    refine ends_bind (ends_referent (fun referent _ => ?_) hrefuse)
    cases hlink : referent.links[index]? with
    | none => exact ends_refuse rfl
    | some serial =>
      have hunobtrusive := ReferentCommand.unobtrusive_links fun links => links.eraseIdx index
      have hkeeps : session.KeepsCounts { session with
          store := session.store.updateReferent referent.name fun owner =>
            { owner with links := owner.links.eraseIdx index } } :=
        ⟨rfl, .updateReferent hunobtrusive⟩
      exact ends_bind (ends_modify
        (hkeeps.keep_of_free (h.consistent.updateReferent hunobtrusive) hpasses))
  | _ => exact hpasses.elim

/-- A pointer that is moved to or from a set touches no count. -/
theorem ends_passes_onSet {command : SetCommand} (hpasses : session.Passes (.onSet command)) :
    (command.run config).Ends session (fun _ after => session.KeepsCounts after)
      fun _ after => after = session := by
  have hrefuse : ∀ _ : Refusal, session = session := fun _ => rfl
  have hfreed (name : String) : session.KeepsCounts (session.freeName name) := ⟨rfl, .refl⟩
  cases command with
  | insert name =>
    refine ends_bind (ends_pointer (fun pointer hserial hstored _ => ?_) hrefuse)
    have hnone : (session.members pointer.scheme).find? (fun serial =>
        (session.store.handle? serial).any fun member => member.equal pointer) = none := by
      refine List.find?_eq_none.mpr fun s hmem => ?_
      have hunequal := hpasses pointer (handle?_of_serial? hserial hstored) s hmem
      cases hmember : session.store.handle? s with
      | none => simp
      | some member => simp [hunequal member hmember]
    refine ends_bind (ends_bind (ends_get (ends_pure ?_)))
    rw [hnone]
    exact ends_bind (ends_modify (ends_bind (ends_modify (ends_pure (hfreed name).setMembers))))
  | replace old name =>
    refine ends_bind (ends_pointer (fun pointer _ _ _ => ?_) hrefuse)
    refine ends_bind (SetCommand.ends_equalMember? fun member? _ => ends_bind (ends_modify ?_))
    cases member? with
    | none => exact ends_bind (ends_modify (ends_pure (hfreed name).setMembers))
    | some member =>
      refine ends_bind (ends_modify (ends_bind (ends_modify ?_)))
      refine (hfreed name).setMembers.setMembers.keep_of_free ?_ ?_
      · rw [store_setMembers, store_setMembers]
        exact h.consistent
      · rw [serial?_setMembers, serial?_setMembers]
        exact serial?_freeName_of_place hpasses
  | take old name =>
    refine ends_bind (ends_pointer (fun pointer _ _ _ => ?_) hrefuse)
    refine ends_bind (SetCommand.ends_equalMember? fun member? _ => ?_)
    have hsame : session.KeepsCounts session := ⟨rfl, .refl⟩
    cases member? with
    | none => exact ends_pure hsame
    | some member =>
      refine ends_bind (ends_modify (hsame.setMembers.keep_of_free ?_ ?_))
      · rw [store_setMembers]
        exact h.consistent
      · rw [serial?_setMembers]
        exact hpasses
  | _ => exact hpasses.elim

/-- A command that passes a value or a handle on touches no count. -/
theorem ends_passes (hpasses : session.Passes command) :
    (command.run config).Ends session (fun _ after => session.KeepsCounts after)
      fun _ after => after = session := by
  cases command with
  | onHandle command => exact ends_passes_onHandle h hpasses
  | change command => exact ends_passes_change h hpasses
  | onReferent command => exact ends_passes_onReferent h hpasses
  | onSet command => exact ends_passes_onSet h hpasses
  | _ => exact hpasses.elim

end Passing

/-- A command that passes a value or a handle on is never one that calls a referent directly. -/
theorem isCall_of_passes (hpasses : session.Passes command) : command.isCall = false := by
  cases command with
  | call command => exact hpasses.elim
  | _ => rfl

/-- A command that passes a value or a handle on is completed as a step, in which no count is
touched. -/
theorem Holding.exists_step_passes (h : session.Sound config) (hpasses : session.Passes command) :
    ∃ shown after, session.step config (command.run config) = .ok (shown, after) ∧
      after.Sound config ∧ after.counts = session.counts ∧ shown.counts = session.counts ∧
      ∀ call moment, .call call moment ∈ shown.events → call.message.recounts = false := by
  have hcall := isCall_of_passes hpasses
  cases hstep : session.step config (command.run config) with
  | error abortion =>
    obtain ⟨referent, -, rfl, -⟩ := h.abortion_of_step hcall hstep
    exact hpasses.elim
  | ok result =>
    obtain ⟨shown, after⟩ := result
    have hends := @step_of_ends config _ _ _ _ (ends_passes h.clearEvents hpasses)
    have hkeeps : session.clearEvents.KeepsCounts after ∧ shown.counts = after.counts := by
      rw [hstep] at hends
      rcases hends with ⟨_, rfl, hkeeps⟩ | ⟨_, rfl, rfl⟩ | ⟨_, rfl, rfl⟩
      · exact ⟨hkeeps, rfl⟩
      · exact ⟨⟨rfl, .refl⟩, rfl⟩
      · exact ⟨⟨rfl, .refl⟩, rfl⟩
    obtain ⟨hkeeps, hcounts⟩ := hkeeps
    obtain ⟨⟨sent, hsent, hquiet⟩, -⟩ := hkeeps.store_keeps
    have hevents : shown.events = sent := (events_of_step hstep).trans hsent
    exact ⟨shown, after, rfl, (h.leads_of_step hcall hstep).holding, hkeeps.counts_eq,
      hcounts.trans hkeeps.counts_eq, hevents ▸ hquiet⟩

/-- Commands that pass values and handles on are all completed, and no count is touched. -/
theorem Holding.exists_steps_passesAll (h : session.Sound config)
    (hpasses : session.PassesAll config commands) :
    ∃ steps after, session.steps config (commands.map (Command.run config)) = (steps, .ok after) ∧
      after.counts = session.counts ∧ ∀ shown ∈ steps, shown.counts = session.counts ∧
        ∀ call moment, .call call moment ∈ shown.events → call.message.recounts = false := by
  induction commands generalizing session with
  | nil => exact ⟨[], session, rfl, rfl, fun _ hmem => absurd hmem List.not_mem_nil⟩
  | cons command rest ih =>
    obtain ⟨hfirst, hrest⟩ := hpasses
    obtain ⟨shown, between, hstep, hsound, hcounts, hshown, hquiet⟩ := h.exists_step_passes hfirst
    rw [hstep] at hrest
    obtain ⟨later, after, hsteps, hafter, hlater⟩ := ih hsound hrest
    refine ⟨shown :: later, after, ?_, hafter.trans hcounts, fun other hmem => ?_⟩
    · rw [List.map_cons, steps_cons_of_ok hstep, hsteps]
    · rcases List.mem_cons.mp hmem with rfl | hmem
      · exact ⟨hshown, hquiet⟩
      · obtain ⟨hsame, hsilent⟩ := hlater other hmem
        exact ⟨hsame.trans hcounts, hsilent⟩

end Session

/-- In a store every transfer comes to the same as a copy and a release. -/
structure Store.TransfersAsCopies (config : Config) (store : Store) : Prop where
  /-- The value of a pointer could as well be copied to a new pointer and cleared. -/
  moveOut : ∀ source, store.handle? source.serial = some source → source.form = .pointer →
    store.ComesToSame (Handle.moveOut config source) (Handle.copyOut config source)
  /-- The value of a pointer could as well be assigned to another one and cleared. -/
  assignMove : ∀ handle source, store.handle? handle.serial = some handle →
    store.handle? source.serial = some source → handle.form = .pointer → source.form = .pointer →
    handle.scheme = source.scheme → handle.serial ≠ source.serial →
    store.ComesToSame (Handle.assignMove config handle source)
      (Handle.assignOut config handle source)
  /-- The referent of a pointer could as well be given to a new reference and cleared. -/
  toReference : ∀ source referent, store.handle? source.serial = some source →
    source.form = .pointer → referent ∈ store.referents → source.address = referent.address →
    store.ComesToSame (Handle.toReference config source) (Handle.referOut config source referent)
  /-- A reference could as well be copied to a new pointer and released. -/
  toPointer : ∀ source, store.handle? source.serial = some source → source.form = .reference →
    store.ComesToSame (Handle.toPointer config source) (Handle.pointOut config source)

namespace Program

/-- Wherever a program gets that leaves calls to handles, transfers come to the same as copies that
are followed by releases. The program can go on with any number of commands that pass values and
handles on, and no count is touched at any time. A referent that is passed on along a chain of
handles lists the last one once and no earlier one. -/
theorem transfers_as_copies {program : Program} {steps : List Step} {session : Session}
    (hcalls : program.LeavesCalls) (hbody : program.body = (steps, .ok session)) :
    session.store.TransfersAsCopies program.config ∧
    (∀ commands, session.PassesAll program.config commands → ∃ later after,
      session.steps program.config (commands.map (Command.run program.config)) =
        (later, .ok after) ∧
      (∀ shown ∈ later, shown.counts = session.counts ∧
        ∀ call moment, .call call moment ∈ shown.events → call.message.recounts = false) ∧
      ∀ referent ∈ session.store.referents, ∀ past, past <+: later.flatMap Step.events →
        (referent.hear program.config past).count = referent.count) ∧
    ∀ handle referent hops, session.store.handle? handle.serial = some handle →
      referent ∈ session.store.referents → handle.address = referent.address →
      Hop.Fit handle.form hops → ∃ earlier last after,
        handle.relay program.config hops session.store = .ok (earlier ++ [last]) after ∧
        earlier.length = hops.length ∧
        session.store.RelaysTo program.config handle earlier last after ∧
        ∃ later ∈ after.referents, later.bare = referent.bare ∧
          (program.config.listsHolders = true →
            (later.roster.listing.map Prod.fst).count last.serial = 1) ∧
          ∀ old ∈ earlier, later.roster.contains old.serial = false := by
  have hsound := (reached_of_body hcalls hbody).sound
  have h := hsound.consistent
  refine ⟨⟨?_, ?_, ?_, ?_⟩, fun commands hpasses => ?_, ?_⟩
  · exact fun source hsource hform => Handle.moveOut_comesToSame h hsource hform
  · exact fun handle source hfound hsource hform hsourceForm hscheme hne =>
      Handle.assignMove_comesToSame h hsource hfound hform hsourceForm hscheme hne
  · exact fun source referent hsource hform hmem haddress =>
      Handle.toReference_comesToSame h hsource hform hmem haddress
  · exact fun source hsource hform => Handle.toPointer_comesToSame h hsource hform
  · obtain ⟨later, after, hsteps, -, hlater⟩ := hsound.exists_steps_passesAll hpasses
    refine ⟨later, after, hsteps, hlater, fun referent _ past hpast => ?_⟩
    refine Referent.count_hear_of_quiet fun call moment hmem => ?_
    obtain ⟨shown, hshown, hcall⟩ := List.mem_flatMap.mp (hpast.subset hmem)
    exact (hlater shown hshown).2 call moment hcall
  · intro handle referent hops hfound hmem haddress hfit
    obtain ⟨earlier, last, after, hrelay, hlength, hrelays⟩ :=
      h.exists_relay hfound (haddress ▸ List.mem_map_of_mem hmem) hfit
    exact ⟨earlier, last, after, hrelay, hlength, hrelays, hrelays.registers hmem haddress⟩

/-- A program with a pointer to a referent. -/
def transfersExample : Program where
  config := ⟨⟨true, true⟩, .ordinary, .trace⟩
  commands := [.onReferent (.create "a" 1 none), .onHandle (.hold .pointer "p" .packed "a")]

/-- After that program the value of the pointer can be moved out to another name, renamed and made a
reference without the referent being told to count, and it can be passed on to a pointer, then to a
reference and then to a pointer again, which is listed alone. -/
theorem transfers_as_copies_transfersExample :
    transfersExample.body = (transfersExample.body.1, .ok transfersExample.final) ∧
      transfersExample.final.store.TransfersAsCopies transfersExample.config ∧
      (∃ later after, transfersExample.final.steps transfersExample.config
          ([.onHandle (.moveOut "q" "p"), .onHandle (.rename "r" "q"),
            .onHandle (.toReference "r" "r")].map (Command.run transfersExample.config)) =
              (later, .ok after) ∧
        later.map Step.counts = [[some 1], [some 1], [some 1]] ∧
        ∀ shown ∈ later, ∀ call moment, .call call moment ∈ shown.events →
          call.message.recounts = false) ∧
      ∃ handle earlier last after, transfersExample.final.handle? "p" = some handle ∧
        handle.relay transfersExample.config [.moveOut, .toReference, .toPointer]
          transfersExample.final.store = .ok (earlier ++ [last]) after ∧
        ∃ later ∈ after.referents, (later.roster.listing.map Prod.fst).count last.serial = 1 ∧
          ∀ old ∈ earlier, later.roster.contains old.serial = false := by
  have hcalls : transfersExample.LeavesCalls := by
    simp [LeavesCalls, transfersExample, Command.isCall]
  have hbody : transfersExample.body =
      (transfersExample.body.1, .ok transfersExample.final) := rfl
  obtain ⟨hcopies, hchains, hrelays⟩ := transfers_as_copies hcalls hbody
  have hpasses : transfersExample.final.PassesAll transfersExample.config
      [.onHandle (.moveOut "q" "p"), .onHandle (.rename "r" "q"),
        .onHandle (.toReference "r" "r")] :=
    And.intro (Or.inl rfl) (And.intro (Or.inl rfl) (And.intro (Or.inr rfl) trivial))
  obtain ⟨later, after, hsteps, hquiet, -⟩ := hchains _ hpasses
  have hcounts : (transfersExample.final.steps transfersExample.config
      ([.onHandle (.moveOut "q" "p"), .onHandle (.rename "r" "q"),
        .onHandle (.toReference "r" "r")].map (Command.run transfersExample.config))).1.map
          Step.counts = [[some 1], [some 1], [some 1]] := rfl
  rw [hsteps] at hcounts
  have hpointer : ((transfersExample.final.handle? "p").bind fun handle =>
      transfersExample.final.store.referents.head?.map fun referent =>
        (handle.form, decide (handle.address = referent.address))) = some (.pointer, true) := rfl
  obtain ⟨handle, hnamed, hheld⟩ := Option.bind_eq_some_iff.mp hpointer
  obtain ⟨referent, hreferent, hwhat⟩ := Option.map_eq_some_iff.mp hheld
  obtain ⟨hform, haddress⟩ := Prod.mk.inj hwhat
  have hfit : Hop.Fit handle.form [.moveOut, .toReference, .toPointer] :=
    And.intro hform.symm (And.intro rfl (And.intro rfl trivial))
  obtain ⟨earlier, last, heirs, hrelay, -, -, listing, hmem, -, honce, hgone⟩ :=
    hrelays handle referent _ (Session.handle?_eq_some hnamed).2 (List.mem_of_head? hreferent)
      (of_decide_eq_true haddress) hfit
  exact ⟨hbody, hcopies,
    ⟨later, after, hsteps, hcounts, fun shown hshown => (hquiet shown hshown).2⟩,
    handle, earlier, last, heirs, hnamed, hrelay, listing, hmem, honce rfl, hgone⟩

end Program

end CountedHandles
