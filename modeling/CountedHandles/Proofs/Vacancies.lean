import CountedHandles.Proofs.Reach
import CountedHandles.Proofs.Relays

/-!
# Vacant handles

A handle that is null or the mark of a deleted bucket holds no referent, so nothing can be called
through it. A command that is only about such handles is inert, and where one of them changes
contents with a bound handle or gets its value, only the referent of the latter is called, to follow
the value.
-/

namespace CountedHandles

/-- A step that concerns only the referents among some names. -/
structure Session.Frames (session : Session) (names : List String) (shown : Step)
    (after : Session) : Prop where
  /-- No other referent is called. -/
  calls : ∀ call moment, .call call moment ∈ shown.events → call.referent ∈ names
  /-- All other referents know what they knew. -/
  known_eq : ∀ name ∉ names, (after.store.referent? name).map Referent.known =
    (session.store.referent? name).map Referent.known

/-- A handle that is null or the mark of a deleted bucket. -/
def Handle.Vacant (handle : Handle) : Prop :=
  handle.slot.isNull = true ∨ handle.slot.isDeleted = true

namespace Store

variable {config : Config} {store before after : Store} {a b : Serial}
  {first second handle : Handle} {form : Form} {slot : Slot} {name : String}

/-- A vacant handle leads nowhere. -/
theorem target?_of_vacant (h : handle.Vacant) (hfound : store.handle? a = some handle) :
    store.target? a = none :=
  (target?_of_handle? hfound).trans (nameAt?_of_target? (Slot.target?_eq_none_iff.mpr h))

/-- In a well-formed store a vacant handle is a pointer. -/
theorem WellFormed.form_of_vacant (h : store.WellFormed) (hvacant : handle.Vacant)
    (hfound : store.handle? a = some handle) : handle.form = .pointer := by
  rcases h.settled handle (mem_of_handle? hfound) with ⟨hform, -⟩ | hsite
  · exact hform
  · have htarget := Slot.target?_of_isSite (h.isSite _ hsite)
    rw [Slot.target?_eq_none_iff.mpr hvacant] at htarget
    cases htarget

/-- A vacant handle gets its new value from a temporary one without any count being touched. -/
theorem KeepsCounts.reassigned (h : store.WellFormed) (ha : store.handle? a = some first)
    (hb : store.handle? b = some second) (hvacant : first.Vacant) :
    store.KeepsCounts (store.reassigned config a b) := by
  have hleft : (store.swapped config a b).target? b = none :=
    @target?_of_vacant _ b { second with slot := first.slot } hvacant
      (handle?_swapped h.nodup_serials ha hb).2
  exact .trans .swapped (.released hleft)

/-- Calls have been made on the way from one store to another, one of which tells a referent to
count up, and none of which tells any referent to count down. -/
def CountsOnce (before : Store) (name : String) (after : Store) : Prop :=
  ∃ sent, after.events = before.events ++ sent ∧
    (sent.filterMap (Event.messageTo? name)).count .increment = 1 ∧
    ∀ call moment, .call call moment ∈ sent → call.message ≠ .decrement

/-- A copy tells its referent to count up once. -/
theorem CountsOnce.created {source : Serial} (hname : store.nameAt? slot = some name) :
    store.CountsOnce name (store.created config form slot (.copied source)) := by
  refine ⟨_, Delivers.created.events_eq, ?_, fun call moment hmem => ?_⟩
  · have hheard := @Config.heard_told config (store.nameAt? slot) name
      ((Provenance.copied source).messages store.nextSerial) (store.addHandle form slot).handles
    rw [if_pos hname] at hheard
    have hsilent : Event.messageTo? name (.created (store.nextHandle form slot)) = none := rfl
    rw [List.filterMap_cons_none hsilent, hheard]
    cases htracking : config.build.tracking <;>
      simp [Provenance.messages, Config.sends, htracking, List.filter]
  · obtain ⟨-, -, hmessage⟩ := Config.mem_told (List.mem_of_ne_of_mem (by simp) hmem)
    intro hdecrement
    have hreleases := Provenance.releases_of_mem hmessage
    rw [hdecrement] at hreleases
    cases hreleases

/-- Where no count is touched after a referent has been told to count up, it has been told so
once. -/
theorem CountsOnce.trans {between : Store} (h : before.CountsOnce name between)
    (hkeeps : between.KeepsCounts after) : before.CountsOnce name after := by
  obtain ⟨sent, hsent, hcount, hrises⟩ := h
  obtain ⟨later, hlater, hquiet⟩ := hkeeps.quiet
  refine ⟨sent ++ later, by rw [hlater, hsent, List.append_assoc], ?_, fun call moment hmem => ?_⟩
  · have hnone : Message.increment ∉ later.filterMap (Event.messageTo? name) := by
      intro hmem
      obtain ⟨moment, hcall⟩ := Event.mem_filterMap_messageTo?.mp hmem
      cases hquiet _ _ hcall
    rw [List.filterMap_append, List.count_append, hcount, List.count_eq_zero.mpr hnone]
  · rcases List.mem_append.mp hmem with hmem | hmem
    · exact hrises call moment hmem
    · intro hdecrement
      have hrecounts := hquiet call moment hmem
      rw [hdecrement] at hrecounts
      cases hrecounts

end Store

open Turn Session

namespace Session

variable {config : Config} {session after : Session} {command : Command} {shown : Step}
  {names more : List String}

/-- What is framed by some names is framed by more. -/
theorem Frames.mono (h : session.Frames names shown after) (hsub : ∀ name ∈ names, name ∈ more) :
    session.Frames more shown after :=
  ⟨fun call moment hmem => hsub _ (h.calls call moment hmem),
    fun name hname => h.known_eq name fun hmem => hname (hsub name hmem)⟩

/-- A step of a command that calls no referent directly is framed by its reach. -/
theorem Holding.frames_of_step (h : session.Sound config) (hcall : command.isCall = false)
    (hstep : session.step config (command.run config) = .ok (shown, after)) :
    session.Frames (session.reach command) shown after := by
  have hspares := Holding.spares_of_step h hcall hstep
  obtain ⟨sent, hsent, hcalls⟩ := hspares.calls
  have hevents : shown.events = sent := (events_of_step hstep).trans hsent
  exact ⟨hevents ▸ hcalls, hspares.known_eq⟩

/-- A command that is only about vacant handles and aims at no referent reaches none. -/
theorem reach_eq_nil (hvacant : ∀ s ∈ session.operands command, ∀ handle,
    session.store.handle? s = some handle → handle.Vacant) (haims : session.aims command = []) :
    session.reach command = [] := by
  rw [reach, haims, List.append_nil, List.filterMap_eq_nil_iff]
  intro s hs
  cases hfound : session.store.handle? s with
  | none => exact Store.target?_of_handle?_eq_none hfound
  | some handle => exact Store.target?_of_vacant (hvacant s hs handle hfound) hfound

/-- Under two names there are a vacant handle and one of its type that is bound to a referent. -/
structure Meets (session : Session) (name other : String) (a b : Handle) (referent : Referent) :
    Prop where
  /-- The first name is that of a handle. -/
  found_first : session.handle? name = some a
  /-- This handle is vacant. -/
  vacant : a.Vacant
  /-- The second name is that of another one. -/
  found_second : session.handle? other = some b
  /-- This handle is bound. -/
  targetOf?_eq : session.store.targetOf? b = some referent
  /-- Both handles are of one type. -/
  type_eq : a.sameType b = true

end Session

namespace Session.Meets

variable {config : Config} {session : Session} {name other : String} {a b : Handle}
  {referent : Referent} {pointers : Bool} {command : ChangeCommand} {done : Store → Prop}

section

variable (h : session.Meets name other a b referent)

include h

/-- The bound handle leads to its referent. -/
theorem target?_second : session.store.target? b.serial = some referent.name := by
  rw [Store.target?, (handle?_eq_some h.found_second).2, Option.bind_some, h.targetOf?_eq,
    Option.map_some]

/-- They are there as well when nothing is shown yet. -/
theorem clearEvents : session.clearEvents.Meets name other a b referent :=
  ⟨h.found_first, h.vacant, h.found_second, h.targetOf?_eq, h.type_eq⟩

/-- The two handles have different serial numbers. -/
theorem serial_ne : a.serial ≠ b.serial := by
  intro heq
  have hbound := h.target?_second
  rw [← heq, Store.target?_of_vacant h.vacant (handle?_eq_some h.found_first).2] at hbound
  cases hbound

/-- The two names are different. -/
theorem name_ne : name ≠ other := by
  rintro rfl
  exact h.serial_ne (congrArg Handle.serial (Option.some.inj (h.found_first.symm.trans
    h.found_second)))

/-- The two handles have one form. -/
theorem form_eq : a.form = b.form := by
  have htype := h.type_eq
  simp only [Handle.sameType, Bool.and_eq_true, beq_iff_eq] at htype
  exact htype.1

/-- The two handles are of one type the other way round. -/
theorem type_eq_symm : b.sameType a = true := by
  have htype := h.type_eq
  simp only [Handle.sameType, Bool.and_eq_true, beq_iff_eq] at htype ⊢
  exact ⟨htype.1.symm, htype.2.symm⟩

/-- A command that is about the two handles and aims at no referent reaches only the one that is
held. -/
theorem eq_of_mem_reach (hnames : ∀ given ∈ command.names, given = name ∨ given = other)
    (haims : session.aims (.change command) = []) {reached : String}
    (hmem : reached ∈ session.reach (.change command)) : reached = referent.name := by
  have hlinks : session.links (.change command) = [] := rfl
  rw [reach, haims, List.append_nil, operands, hlinks, List.append_nil] at hmem
  obtain ⟨s, hs, htarget⟩ := List.mem_filterMap.mp hmem
  obtain ⟨given, hgiven, hserial⟩ := List.mem_filterMap.mp hs
  obtain ⟨hfirst, hfirstStored⟩ := handle?_eq_some h.found_first
  rcases hnames given hgiven with rfl | rfl
  · cases hfirst.symm.trans hserial
    rw [Store.target?_of_vacant h.vacant hfirstStored] at htarget
    cases htarget
  · cases (handle?_eq_some h.found_second).1.symm.trans hserial
    exact Option.some.inj (htarget.symm.trans h.target?_second)

end

section

variable (h : session.Meets name other a b referent) (hsound : session.Sound config)

include h hsound

/-- The vacant handle is a pointer. -/
theorem form_first : a.form = .pointer :=
  hsound.consistent.form_of_vacant h.vacant (handle?_eq_some h.found_first).2

/-- The bound handle is a pointer as well. -/
theorem form_second : b.form = .pointer :=
  h.form_eq.symm.trans (h.form_first hsound)

/-- The vacant handle and the bound one are looked up. -/
theorem run_sameType :
    ChangeCommand.sameType name other pointers session = .ok (a, b) session :=
  ChangeCommand.run_sameType h.found_first h.found_second h.name_ne h.type_eq
    fun _ => h.form_first hsound

/-- The bound handle and the vacant one are looked up. -/
theorem run_sameType_symm :
    ChangeCommand.sameType other name pointers session = .ok (b, a) session :=
  ChangeCommand.run_sameType h.found_second h.found_first h.name_ne.symm h.type_eq_symm
    fun _ => h.form_second hsound

/-- Handles that change their contents touch no count. -/
theorem ends_swap :
    (ChangeCommand.run config (.swap name other)).Ends session
      (fun answer after => answer = .nothing ∧ session.store.KeepsCounts after.store)
      fun _ _ => False :=
  ends_bind (ends_of_run (h.run_sameType hsound) (ChangeCommand.ends_act
    (Handle.run_swap hsound.consistent (handle?_eq_some h.found_first).2
      (handle?_eq_some h.found_second).2) ⟨rfl, .swapped⟩))

/-- Nor do they if they are given in the other order. -/
theorem ends_swap_symm :
    (ChangeCommand.run config (.swap other name)).Ends session
      (fun answer after => answer = .nothing ∧ session.store.KeepsCounts after.store)
      fun _ _ => False :=
  ends_bind (ends_of_run (h.run_sameType_symm hsound) (ChangeCommand.ends_act
    (Handle.run_swap hsound.consistent (handle?_eq_some h.found_second).2
      (handle?_eq_some h.found_first).2) ⟨rfl, .swapped⟩))

/-- A vacant handle that takes the value of a bound one touches no count. -/
theorem ends_assignMove :
    (ChangeCommand.run config (.assignMove name other)).Ends session
      (fun answer after => answer = .nothing ∧ session.store.KeepsCounts after.store)
      fun _ _ => False := by
  have hc := hsound.consistent
  have hfirst := (handle?_eq_some h.found_first).2
  have hsecond := (handle?_eq_some h.found_second).2
  have hmoved : (session.store.movedOut config b.scheme b.serial).Consistent config :=
    hc.course (.movedOut hc.toWellFormed hsecond (h.form_second hsound))
  refine ends_bind (ends_of_run (h.run_sameType hsound) ?_)
  refine ChangeCommand.ends_act (Handle.run_assignMove hc hfirst hsecond (h.form_first hsound)
    (h.form_second hsound) h.serial_ne) ⟨rfl, ?_⟩
  exact .trans .movedOut (.reassigned hmoved.toWellFormed
    (Store.handle?_movedOut_of_ne hc hsecond hfirst h.serial_ne)
    (Store.handle?_movedOut_nextSerial hc hsecond) h.vacant)

/-- A vacant handle that gets a copy of the value of a bound one makes its referent count up once.
-/
theorem ends_assignCopy :
    (ChangeCommand.act (Handle.assignCopy config a b)).Ends session
      (fun answer after => answer = .nothing ∧
        session.store.CountsOnce referent.name after.store)
      fun _ _ => False := by
  have hc := hsound.consistent
  have hfirst := (handle?_eq_some h.found_first).2
  have hsecond := (handle?_eq_some h.found_second).2
  have hname : session.store.nameAt? b.slot = some referent.name :=
    (Store.target?_of_handle? hsecond).symm.trans h.target?_second
  have hcopied :
      (session.store.created config a.form b.slot (.copied b.serial)).Consistent config :=
    hc.created (hc.settled_copy hsecond (Or.inl h.form_eq)) (by simp)
  refine ChangeCommand.ends_act (Handle.run_assignCopy hc hfirst hsecond h.form_eq.symm) ⟨rfl, ?_⟩
  exact (Store.CountsOnce.created hname).trans (.reassigned hcopied.toWellFormed
    (Store.handle?_created hfirst) (Store.handle?_created_nextSerial hc.toWellFormed) h.vacant)

/-- A command that is about the two handles and is completed is answered as a step, which concerns
only the referent that is held. -/
theorem exists_step (hnames : ∀ given ∈ command.names, given = name ∨ given = other)
    (haims : session.aims (.change command) = [])
    (hends : (command.run config).Ends session.clearEvents
      (fun answer after => answer = .nothing ∧ done after.store) fun _ _ => False) :
    ∃ shown after, session.step config (Command.run config (.change command)) = .ok (shown, after) ∧
      shown.outcome = .answered .nothing ∧ session.Frames [referent.name] shown after ∧
      shown.events = after.store.events ∧ done after.store := by
  obtain ⟨_, after, hstep, rfl, hdone⟩ := exists_step_of_ends hends
  have hframes := @Holding.frames_of_step config session after (.change command) _ hsound rfl hstep
  exact ⟨_, after, hstep, rfl, hframes.mono fun reached hmem =>
    List.mem_singleton.mpr (h.eq_of_mem_reach hnames haims hmem), rfl, hdone⟩

/-- Where the handles change contents or the value is moved, the referent that is held is told to
follow, and no count is touched. -/
theorem exists_step_quiet (hcommand : command ∈
    [ChangeCommand.swap name other, .swap other name, .assignMove name other]) :
    ∃ shown after, session.step config (Command.run config (.change command)) = .ok (shown, after) ∧
      shown.outcome = .answered .nothing ∧ session.Frames [referent.name] shown after ∧
      ∀ call moment, .call call moment ∈ shown.events → call.message.recounts = false := by
  have hquiet : ∃ shown after,
      session.step config (Command.run config (.change command)) = .ok (shown, after) ∧
      shown.outcome = .answered .nothing ∧ session.Frames [referent.name] shown after ∧
      shown.events = after.store.events ∧
      session.clearEvents.store.KeepsCounts after.store := by
    simp only [List.mem_cons, List.not_mem_nil, or_false] at hcommand
    rcases hcommand with rfl | rfl | rfl
    · exact h.exists_step hsound (by simp [ChangeCommand.names]) rfl
        (h.clearEvents.ends_swap hsound.clearEvents)
    · exact h.exists_step hsound (by simp [ChangeCommand.names]) rfl
        (h.clearEvents.ends_swap_symm hsound.clearEvents)
    · exact h.exists_step hsound (by simp [ChangeCommand.names]) rfl
        (h.clearEvents.ends_assignMove hsound.clearEvents)
  obtain ⟨shown, after, hstep, hanswer, hframes, hevents, hkeeps⟩ := hquiet
  obtain ⟨sent, hsent, hcalls⟩ := hkeeps.quiet
  have hshown : shown.events = sent := hevents.trans hsent
  exact ⟨shown, after, hstep, hanswer, hframes, hshown ▸ hcalls⟩

/-- Where the value is copied, the referent that is held is told once to count up and never to count
down. -/
theorem exists_step_counts (hcommand : command ∈
    [ChangeCommand.assignPointer name other, .assignHandle name other]) :
    ∃ shown after, session.step config (Command.run config (.change command)) = .ok (shown, after) ∧
      shown.outcome = .answered .nothing ∧ session.Frames [referent.name] shown after ∧
      (shown.events.filterMap (Event.messageTo? referent.name)).count .increment = 1 ∧
      ∀ call moment, .call call moment ∈ shown.events → call.message ≠ .decrement := by
  have hcopies := h.clearEvents.ends_assignCopy hsound.clearEvents
  have hcounts : ∃ shown after,
      session.step config (Command.run config (.change command)) = .ok (shown, after) ∧
      shown.outcome = .answered .nothing ∧ session.Frames [referent.name] shown after ∧
      shown.events = after.store.events ∧
      session.clearEvents.store.CountsOnce referent.name after.store := by
    simp only [List.mem_cons, List.not_mem_nil, or_false] at hcommand
    rcases hcommand with rfl | rfl
    · exact h.exists_step hsound (by simp [ChangeCommand.names]) rfl
        (ends_bind (ends_of_run (h.clearEvents.run_sameType hsound.clearEvents) hcopies))
    · exact h.exists_step hsound (by simp [ChangeCommand.names]) rfl
        (ends_bind (ends_of_run (h.clearEvents.run_sameType hsound.clearEvents) hcopies))
  obtain ⟨shown, after, hstep, hanswer, hframes, hevents, sent, hsent, honce, hrises⟩ := hcounts
  have hshown : shown.events = sent := hevents.trans hsent
  exact ⟨shown, after, hstep, hanswer, hframes, hshown ▸ honce, hshown ▸ hrises⟩

end

end Session.Meets

namespace Program

variable {program : Program} {steps : List Step} {session : Session}

/-- Commands concern only the referents that they reach. Wherever a program gets that calls no
referent directly, a step of such a command calls only referents that its handles hold before it or
at which it aims, and all others know what they knew. So nothing is called where all handles are
null or marks of deleted buckets, of whichever scheme. Where such a handle meets a bound one, only
the referent of the latter is called: to follow its value if the handles change contents or the
value is moved, and once to count up if the value is copied. -/
theorem operations_frame (hcalls : program.LeavesCalls)
    (hbody : program.body = (steps, .ok session)) :
    (∀ command : Command, command.isCall = false →
      ((∀ name, command ≠ .onReferent (.destroy name)) → ∃ shown after,
        session.step program.config (command.run program.config) = .ok (shown, after)) ∧
      ∀ shown after,
        session.step program.config (command.run program.config) = .ok (shown, after) →
          session.Frames (session.reach command) shown after) ∧
    (∀ command : Command, command.isCall = false → session.aims command = [] →
      (∀ s ∈ session.operands command, ∀ handle, session.store.handle? s = some handle →
        handle.Vacant) →
      ∃ shown after,
        session.step program.config (command.run program.config) = .ok (shown, after) ∧
        session.Frames [] shown after) ∧
    (∀ name other a b referent, session.Meets name other a b referent →
      (∀ command ∈ [ChangeCommand.swap name other, .swap other name, .assignMove name other],
        ∃ shown after,
          session.step program.config (Command.run program.config (.change command)) =
            .ok (shown, after) ∧
          shown.outcome = .answered .nothing ∧ session.Frames [referent.name] shown after ∧
          ∀ call moment, .call call moment ∈ shown.events → call.message.recounts = false) ∧
      ∀ command ∈ [ChangeCommand.assignPointer name other, .assignHandle name other],
        ∃ shown after,
          session.step program.config (Command.run program.config (.change command)) =
            .ok (shown, after) ∧
          shown.outcome = .answered .nothing ∧ session.Frames [referent.name] shown after ∧
          (shown.events.filterMap (Event.messageTo? referent.name)).count .increment = 1 ∧
          ∀ call moment, .call call moment ∈ shown.events → call.message ≠ .decrement) := by
  have hsound := (reached_of_body hcalls hbody).sound
  refine ⟨fun command hcall => ⟨hsound.exists_step_of_ne_destroy hcall,
    fun _ _ => hsound.frames_of_step hcall⟩, fun command hcall haims hvacant => ?_,
    fun name other a b referent hmeets => ⟨fun command => hmeets.exists_step_quiet hsound,
      fun command => hmeets.exists_step_counts hsound⟩⟩
  have hne : ∀ name, command ≠ .onReferent (.destroy name) := by
    rintro name rfl
    cases haims
  obtain ⟨shown, after, hstep⟩ := hsound.exists_step_of_ne_destroy hcall hne
  have hframes := hsound.frames_of_step hcall hstep
  rw [Session.reach_eq_nil hvacant haims] at hframes
  exact ⟨shown, after, hstep, hframes⟩

/-- A program with two referents, a pointer to each of them, a null pointer and a mark of a deleted
bucket. -/
def framesExample : Program where
  config := ⟨⟨true, true⟩, .recorder, .off⟩
  commands :=
    [.onReferent (.create "a" 1 none), .onReferent (.create "b" 2 none),
      .onHandle (.hold .pointer "p" .packed "a"), .onHandle (.hold .pointer "q" .raw "b"),
      .onHandle (.null "n" .packed), .onHandle (.deleted "d" .raw)]

/-- After that program the null pointer can be vacated as a bucket without any call. A copy of the
first pointer makes its referent count up once, and the mark changes contents with the second one
without any count being touched. -/
theorem operations_frame_framesExample :
    framesExample.body = (framesExample.body.1, .ok framesExample.final) ∧
      (∃ shown after, framesExample.final.step framesExample.config
          (Command.run framesExample.config (.change (.vacateBucket "n"))) = .ok (shown, after) ∧
        framesExample.final.Frames [] shown after) ∧
      (∃ shown after, framesExample.final.step framesExample.config
          (Command.run framesExample.config (.change (.assignPointer "n" "p"))) =
            .ok (shown, after) ∧
        framesExample.final.Frames ["a"] shown after ∧
        (shown.events.filterMap (Event.messageTo? "a")).count .increment = 1) ∧
      ∃ shown after, framesExample.final.step framesExample.config
          (Command.run framesExample.config (.change (.swap "d" "q"))) = .ok (shown, after) ∧
        framesExample.final.Frames ["b"] shown after ∧
        ∀ call moment, .call call moment ∈ shown.events → call.message.recounts = false := by
  have hcalls : framesExample.LeavesCalls := by
    simp [LeavesCalls, framesExample, Command.isCall]
  have hbody : framesExample.body = (framesExample.body.1, .ok framesExample.final) := rfl
  obtain ⟨-, hvacant, hmeets⟩ := operations_frame hcalls hbody
  have hnull : framesExample.final.handle? "n" = some ⟨3, .pointer, Slot.null .packed⟩ := rfl
  have hmark : framesExample.final.handle? "d" = some ⟨4, .pointer, Slot.deleted .raw⟩ := rfl
  have hoperands : framesExample.final.operands (.change (.vacateBucket "n")) = [3] := rfl
  obtain ⟨shown, after, hstep, hframes⟩ := hvacant (.change (.vacateBucket "n")) rfl rfl
    (by
      intro s hs handle hfound
      rw [hoperands, List.mem_singleton] at hs
      subst hs
      cases (Session.handle?_eq_some hnull).2.symm.trans hfound
      exact Or.inl rfl)
  obtain ⟨-, hcounts⟩ := hmeets "n" "p" _ _ _ ⟨hnull, Or.inl rfl, rfl, rfl, rfl⟩
  obtain ⟨hquiet, -⟩ := hmeets "d" "q" _ _ _ ⟨hmark, Or.inr rfl, rfl, rfl, rfl⟩
  obtain ⟨copied, afterCopy, hcopy, -, hcopyFrames, honce, -⟩ :=
    hcounts (.assignPointer "n" "p") List.mem_cons_self
  obtain ⟨swapped, afterSwap, hswap, -, hswapFrames, hsilent⟩ :=
    hquiet (.swap "d" "q") List.mem_cons_self
  exact ⟨hbody, ⟨shown, after, hstep, hframes⟩, ⟨copied, afterCopy, hcopy, hcopyFrames, honce⟩,
    swapped, afterSwap, hswap, hswapFrames, hsilent⟩

end Program

end CountedHandles
