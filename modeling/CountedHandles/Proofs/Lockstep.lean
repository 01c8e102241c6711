import CountedHandles.Proofs.Reflection
import CountedHandles.Proofs.Runs

/-!
# Runs in lockstep

Two runs of one program in different builds, on referents that are checked at the same time, go in
lockstep: step by step they come to the same, up to serial numbers and registrations, and lead to
sessions that look the same in the plain view. If the builds differ in their assertions only,
nothing differs at all.
-/

namespace CountedHandles

/-! ## What is plainly seen of steps -/

/-- A handle as a dump shows it, without its serial number. -/
def HandleView.plain (handle : HandleView) : HandleView :=
  { handle with serial? := none }

/-- A referent as a dump shows it, without serial numbers and registrations. -/
def ReferentView.plain (referent : ReferentView) : ReferentView :=
  { referent with roster? := none, links := referent.links.map HandleView.plain }

/-- A dump without serial numbers and registrations. -/
def Dump.plain (dump : Dump) : Dump :=
  { dump with
    handles := dump.handles.map fun (name, handle) => (name, handle.plain)
    referents := dump.referents.map ReferentView.plain }

/-- An answer without serial numbers and registrations. -/
def Answer.plain : Answer → Answer
  | .serial _ => .nothing
  | .registrations _ => .nothing
  | .dump shown => .dump shown.plain
  | answer => answer

/-- Whether a command is about nothing but what only serves diagnostics. -/
def Command.isDiagnostic : Command → Bool
  | .onReferent (.provenances _) => true
  | .onReferent (.printCounter _) => true
  | .unreadable preconditions => preconditions.contains .tracking
  | _ => false

/-- What is plainly seen of what a command comes to: every panic, and every refusal and answer
unless the command is about diagnostics. -/
def Outcome.plain? (command : Command) : Outcome → Option Outcome
  | .panicked cause => some (.panicked cause)
  | .refused refusal => if command.isDiagnostic then none else some (.refused refusal)
  | .answered answer => if command.isDiagnostic then none else some (.answered answer.plain)

/-- What is plainly seen of a step. -/
def Step.plain (command : Command) (shown : Step) :
    Option Outcome × List (Option Nat) × List Event :=
  (shown.outcome.plain? command, shown.counts, shown.events.filter View.plain.shows)

/-- What is plainly seen of the end of a run. -/
def Abortion.plain : Abortion → Abortion
  | .violation report channel events =>
    .violation (View.plain.violation report) channel (events.filter View.plain.shows)
  | .collapse => .collapse

/-- The first line of a report is seen in every view. -/
@[simp] theorem View.header_violation {view : View} {violation : Violation} :
    (view.violation violation).header = violation.header := by
  cases view <;> rfl

/-- A violation looks in the plain view only like one that is reported on the same channel and with
the same first line. -/
theorem Abortion.eq_violation_of_plain {abortion : Abortion} {report : Violation}
    {channel : Channel} {events : List Event}
    (h : (Abortion.violation report channel events).plain = abortion.plain) :
    ∃ report' events', abortion = .violation report' channel events' ∧
      report'.header = report.header := by
  cases abortion with
  | collapse => cases h
  | violation report' channel' events' =>
    obtain ⟨hreport, rfl, -⟩ := Abortion.violation.inj h
    refine ⟨report', events', rfl, ?_⟩
    rw [← @View.header_violation .plain report', ← hreport, View.header_violation]

namespace Session

/-- Two runs go in lockstep if every step is completed or aborted in both, comes to the same as far
as is plainly seen, and leads to sessions of which the same is plainly seen. -/
def Lockstep (config config' : Config) : List Command → Session → Session → Prop
  | [], _, _ => True
  | command :: rest, session, session' =>
    match session.step config (command.run config), session'.step config' (command.run config') with
    | .ok (shown, after), .ok (shown', after') =>
      shown.plain command = shown'.plain command ∧
        View.plain.session after = View.plain.session after' ∧
          Lockstep config config' rest after after'
    | .error abortion, .error abortion' => abortion.plain = abortion'.plain
    | _, _ => False

variable {view : View} {config config' : Config} {session session' after : Session}
  {command : Command} {commands : List Command} {turn mirror : Turn Answer} {shown : Step}

@[simp] theorem counts_session : (view.session session).counts = session.counts := by
  simp only [counts, View.session, View.referent?_store, Option.map_map]
  refine List.map_congr_left fun name _ => ?_
  cases session.store.referent? name with
  | none => rfl
  | some referent => exact congrArg some View.count_referent

/-- What is plainly seen of a step is plainly seen of another one that mirrors it. -/
def Shows (command : Command) : Except Abortion (Step × Session) →
    Except Abortion (Step × Session) → Prop
  | .ok (shown, after), mirror =>
    ∃ seen, mirror = .ok (seen, View.plain.session after) ∧ seen.plain command = shown.plain command
  | .error abortion, mirror => mirror = .error abortion.plain

/-- Two steps that are mirrored by the same one are both completed or both aborted, and the same is
plainly seen of them. -/
theorem Shows.agree {first second seen : Except Abortion (Step × Session)}
    (h : Shows command first seen) (h' : Shows command second seen) :
    (∃ shown after shown' after', first = .ok (shown, after) ∧ second = .ok (shown', after') ∧
      shown.plain command = shown'.plain command ∧
      View.plain.session after = View.plain.session after') ∨
    ∃ abortion abortion', first = .error abortion ∧ second = .error abortion' ∧
      abortion.plain = abortion'.plain := by
  rcases first with abortion | ⟨shown, after⟩ <;> rcases second with abortion' | ⟨shown', after'⟩
  · exact Or.inr ⟨_, _, rfl, rfl, Except.error.inj (h.symm.trans h')⟩
  · obtain ⟨_, hseen, -⟩ := h'
    cases hseen.symm.trans h
  · obtain ⟨_, hseen, -⟩ := h
    cases hseen.symm.trans h'
  · obtain ⟨_, hfirst, hshown⟩ := h
    obtain ⟨_, hsecond, hshown'⟩ := h'
    obtain ⟨rfl, hafter⟩ := Prod.mk.inj (Except.ok.inj (hfirst.symm.trans hsecond))
    exact Or.inl ⟨_, _, _, _, rfl, rfl, hshown.symm.trans hshown', hafter⟩

/-- A completed step is seen to come to what it comes to. -/
theorem plain_completed {outcome seen : Outcome}
    (h : seen.plain? command = outcome.plain? command) :
    ((View.plain.session after).completed seen).plain command =
      (after.completed outcome).plain command := by
  have hevents : (View.plain.session after).store.events.filter View.plain.shows =
      after.store.events.filter View.plain.shows := by
    simp [View.session, View.store]
  simp only [completed, Step.plain, h, counts_session, hevents]

/-- A turn whose plain answer is mirrored makes a step that is mirrored. -/
theorem shows_of_mirrors
    (h : Turn.Mirrors .plain (Answer.plain <$> turn) (Answer.plain <$> mirror)
      session.clearEvents) :
    Shows command (session.step config turn)
      ((View.plain.session session).step (View.plain.config config) mirror) := by
  have hstart : (View.plain.session session).clearEvents =
      View.plain.session session.clearEvents := rfl
  have hchannel : (View.plain.config config).channel = config.channel := by
    simp only [Config.channel, View.log_config]
  unfold Turn.Mirrors at h
  simp only [map_eq_pure_bind, Turn.run_bind] at h
  unfold step
  rw [hstart, hchannel]
  cases hturn : turn session.clearEvents with
  | ok answer after =>
    rw [hturn] at h
    cases hmirror : mirror (View.plain.session session.clearEvents) with
    | error stop seen =>
      rw [hmirror] at h
      cases h
    | ok seen other =>
      rw [hmirror] at h
      obtain ⟨hanswer, rfl⟩ := EStateM.Result.ok.inj h
      refine ⟨_, rfl, plain_completed ?_⟩
      simp only [Outcome.plain?, hanswer]
  | error stop after =>
    rw [hturn] at h
    cases hmirror : mirror (View.plain.session session.clearEvents) with
    | ok seen other =>
      rw [hmirror] at h
      cases h
    | error seen other =>
      rw [hmirror] at h
      obtain ⟨rfl, rfl⟩ := EStateM.Result.error.inj h
      cases stop with
      | refused refusal => exact ⟨_, rfl, plain_completed rfl⟩
      | fault fault =>
        cases fault with
        | panic cause => exact ⟨_, rfl, plain_completed rfl⟩
        | violation violation => exact rfl
        | collapse => exact rfl

/-- A dump looks the same in the plain view. -/
theorem plain_dump : ((View.plain.session session).dump (View.plain.config config)).plain =
    (session.dump config).plain := by
  have hhandles : (View.plain.session session).namesInOrder = session.namesInOrder := rfl
  simp only [dump, Dump.plain, hhandles, List.map_filterMap]
  congr 1
  · refine List.filterMap_congr fun entry _ => ?_
    simp only [View.session, View.handle?_store, Option.map_map]
    rfl
  · simp only [View.session, View.store, List.map_map]
    refine List.map_congr_left fun referent _ => ?_
    simp only [Function.comp_apply, viewReferent, ReferentView.plain, List.map_map]
    rfl

end Session

namespace Command

open Turn Session

variable {config : Config} {session : Session} {command : Command}

/-- A command about diagnostics changes nothing and does not panic. -/
theorem ends_run_of_isDiagnostic (h : command.isDiagnostic = true) :
    (command.run config).Ends session (fun _ after => after = session)
      fun stop after => after = session ∧ ∃ refusal, stop = .refused refusal := by
  have hrefuse : ∀ refusal : Refusal, session = session ∧
      ∃ other, Stop.refused refusal = .refused other := fun refusal => ⟨rfl, refusal, rfl⟩
  cases command with
  | onReferent command =>
    cases command with
    | provenances name =>
      apply ends_bind (ends_require (fun _ => ?_) hrefuse)
      exact ends_bind (ends_referent (fun _ _ => ends_pure rfl) hrefuse)
    | printCounter name =>
      apply ends_bind (ends_referent (fun _ _ => ?_) hrefuse)
      exact ends_bind (ends_require (fun _ => ends_pure rfl) hrefuse)
    | _ => cases h
  | unreadable preconditions => exact ends_run_unreadable hrefuse
  | _ => cases h

/-- Nothing is plainly seen of what a command about diagnostics comes to. -/
theorem step_of_isDiagnostic (h : command.isDiagnostic = true) :
    ∃ outcome, outcome.plain? command = none ∧ session.step config (command.run config) =
      .ok (session.clearEvents.completed outcome, session.clearEvents) := by
  have hends := @step_of_ends config _ _ _ _
    (@ends_run_of_isDiagnostic config session.clearEvents command h)
  cases hstep : session.step config (command.run config) with
  | ok result =>
    obtain ⟨shown, after⟩ := result
    rw [hstep] at hends
    rcases hends with ⟨answer, rfl, rfl⟩ | ⟨refusal, rfl, rfl, -⟩ | ⟨cause, -, -, _, hstop⟩
    · exact ⟨_, by simp [Outcome.plain?, h], rfl⟩
    · exact ⟨_, by simp [Outcome.plain?, h], rfl⟩
    · cases hstop
  | error abortion =>
    rw [hstep] at hends
    rcases hends with ⟨_, _, -, -, _, hstop⟩ | ⟨_, -, -, _, hstop⟩
    · cases hstop
    · cases hstop

/-- The plain answer of a command that is not about diagnostics is mirrored. -/
theorem mirrors_plain (h : session.Sound config) (hcall : command.isCall = false)
    (hplain : command.isDiagnostic = false) :
    Mirrors .plain (Answer.plain <$> command.run config)
      (Answer.plain <$> command.run (View.plain.config config)) session := by
  by_cases hasks : command.asksDiagnostics = false
  · rw [map_eq_pure_bind, map_eq_pure_bind]
    apply mirrors_bind (command.mirrors_run h hcall hasks)
    exact ends_of_forall (fun _ _ => mirrors_pure) fun _ _ => trivial
  · cases command with
    | onReferent command =>
      cases command with
      | roster name =>
        simp only [run, ReferentCommand.run, map_bind, map_pure]
        apply mirrors_bind_referent
        intro referent _
        have hnothing (config : Config) (referent : Referent) :
            ((config.shownRoster? referent).elim Answer.nothing .registrations).plain =
              .nothing := by
          cases config.shownRoster? referent <;> rfl
        rw [hnothing, hnothing]
        exact mirrors_pure
      | provenances name => cases hplain
      | printCounter name => cases hplain
      | _ => exact absurd rfl hasks
    | look command =>
      cases command with
      | serial name =>
        have hnothing (config : Config) (serial : Serial) :
            ((config.shownSerial? serial).elim Answer.nothing .serial).plain = .nothing := by
          cases config.shownSerial? serial <;> rfl
        simp only [run, LookCommand.run, map_bind, map_pure, hnothing]
        exact mirrors_bind_pure mirrors_handle
      | dump =>
        simp only [run, LookCommand.run, map_bind, map_pure]
        apply mirrors_bind_get
        simp only [Answer.plain, plain_dump]
        exact mirrors_pure
      | _ => exact absurd rfl hasks
    | unreadable preconditions => exact absurd hplain hasks
    | _ => exact absurd rfl hasks

/-- What is plainly seen of the step of a command is what the same command comes to where nothing is
tracked or asserted. -/
theorem shows_step (h : session.Sound config) (hcall : command.isCall = false) :
    Shows command (session.step config (command.run config))
      ((View.plain.session session).step (View.plain.config config)
        (command.run (View.plain.config config))) := by
  cases hdiagnostic : command.isDiagnostic with
  | false => exact shows_of_mirrors (mirrors_plain h.clearEvents hcall hdiagnostic)
  | true =>
    obtain ⟨outcome, hnone, hstep⟩ :=
      @step_of_isDiagnostic config session command hdiagnostic
    obtain ⟨seen, hseen, hmirror⟩ :=
      @step_of_isDiagnostic (View.plain.config config) (View.plain.session session) command
        hdiagnostic
    have hstart : (View.plain.session session).clearEvents =
        View.plain.session session.clearEvents := rfl
    rw [hstep, hmirror, hstart]
    exact ⟨_, rfl, plain_completed (hseen.trans hnone.symm)⟩

end Command

namespace Session

variable {config config' : Config} {session session' : Session} {commands : List Command}

/-- Sound sessions of which the same is plainly seen go on in lockstep. -/
theorem Holding.lockstep (hconfig : View.plain.config config = View.plain.config config')
    (hcalls : ∀ command ∈ commands, command.isCall = false) (h : session.Sound config)
    (h' : session'.Sound config')
    (hseen : View.plain.session session = View.plain.session session') :
    Lockstep config config' commands session session' := by
  induction commands generalizing session session' with
  | nil => trivial
  | cons command rest ih =>
    have hcall := hcalls command List.mem_cons_self
    -- Both steps are compared with the same third one, taken where nothing is tracked or asserted.
    have hshows := Command.shows_step h hcall
    have hshows' := Command.shows_step h' hcall
    rw [← hconfig, ← hseen] at hshows'
    unfold Lockstep
    rcases hshows.agree hshows' with ⟨shown, after, shown', after', hstep, hstep', hshown, hafter⟩ |
      ⟨abortion, abortion', hstep, hstep', habortion⟩
    · rw [hstep, hstep']
      refine ⟨hshown, hafter, ?_⟩
      exact ih (fun other hother => hcalls other (List.mem_cons_of_mem _ hother))
        (h.leads_of_step hcall hstep).holding (h'.leads_of_step hcall hstep').holding hafter
    · rw [hstep, hstep']
      exact habortion

/-- If one of two runs in lockstep is aborted, so is the other one in the same step, and the same is
plainly seen of how they end. -/
theorem Lockstep.exists_abortion {shown : List Step} {abortion : Abortion}
    (h : Lockstep config config' commands session session')
    (hsteps : session.steps config (commands.map (Command.run config)) =
      (shown, .error abortion)) :
    ∃ shown' abortion', session'.steps config' (commands.map (Command.run config')) =
      (shown', .error abortion') ∧ shown'.length = shown.length ∧
        abortion.plain = abortion'.plain := by
  induction commands generalizing session session' shown with
  | nil => cases hsteps
  | cons command rest ih =>
    unfold Lockstep at h
    rw [List.map_cons] at hsteps ⊢
    cases hstep : session.step config (command.run config) with
    | error first =>
      rw [hstep] at h
      rw [steps_cons_of_error hstep] at hsteps
      cases hsteps
      cases hstep' : session'.step config' (command.run config') with
      | error second =>
        rw [hstep'] at h
        exact ⟨[], second, steps_cons_of_error hstep', rfl, h⟩
      | ok result =>
        rw [hstep'] at h
        exact h.elim
    | ok result =>
      obtain ⟨head, after⟩ := result
      rw [hstep] at h
      rw [steps_cons_of_ok hstep] at hsteps
      obtain ⟨rfl, htail⟩ := Prod.mk.inj hsteps
      cases hstep' : session'.step config' (command.run config') with
      | error second =>
        rw [hstep'] at h
        exact h.elim
      | ok result' =>
        obtain ⟨head', after'⟩ := result'
        rw [hstep'] at h
        obtain ⟨later, abortion', hrest, hlength, hplain⟩ := ih h.2.2 (Prod.ext rfl htail)
        refine ⟨head' :: later, abortion', ?_, by simp [hlength], hplain⟩
        rw [steps_cons_of_ok hstep', hrest]

end Session

/-! ## Builds that differ in their assertions -/

namespace View

@[simp] theorem session_whole {session : Session} : View.whole.session session = session := by
  have hreferent : View.whole.referent = id := rfl
  have hshows : View.whole.shows = fun _ => true := rfl
  simp only [View.session, View.store, hreferent, hshows, List.map_id, List.filter_true]

theorem stop_whole {stop : Stop} : View.whole.stop stop = stop := by
  cases stop with
  | refused refusal => rfl
  | fault fault => cases fault <;> rfl

end View

variable {config : Config} {session : Session} {command : Command} {commands : List Command}

/-- What a command does does not depend on assertions. -/
theorem Command.run_whole (h : session.Sound config) (hcall : command.isCall = false) :
    command.run (View.whole.config config) session = command.run config session := by
  by_cases hasks : command.asksDiagnostics = false
  · have hmirrors := @Command.mirrors_run .whole config session command h hcall hasks
    unfold Turn.Mirrors at hmirrors
    simp only [View.session_whole, View.stop_whole] at hmirrors
    rw [hmirrors]
    cases command.run config session <;> rfl
  · -- What is asked about diagnostics depends on whether handles are tracked, and on no assertion.
    have hserial : (View.whole.config config).shownSerial? = config.shownSerial? := rfl
    have hroster : (View.whole.config config).shownRoster? = config.shownRoster? := rfl
    have htracking : (View.whole.config config).build.tracking = config.build.tracking := rfl
    cases command with
    | onReferent command =>
      cases command with
      | roster name => simp only [Command.run, ReferentCommand.run, hroster]
      | provenances name => simp only [Command.run, ReferentCommand.run, htracking]
      | printCounter name => simp only [Command.run, ReferentCommand.run, htracking]
      | _ => exact absurd rfl hasks
    | look command =>
      cases command with
      | serial name => simp only [Command.run, LookCommand.run, hserial]
      | dump =>
        have hdump : ∀ session : Session,
            session.dump (View.whole.config config) = session.dump config := fun _ => rfl
        simp only [Command.run, LookCommand.run, hdump]
      | _ => exact absurd rfl hasks
    | unreadable preconditions =>
      have hestablish : Turn.establish (View.whole.config config) = Turn.establish config := by
        funext precondition
        cases precondition <;> rfl
      simp only [Command.run, hestablish]
    | _ => exact absurd rfl hasks

/-- The steps of a program do not depend on assertions. -/
theorem Session.steps_whole (h : session.Sound config)
    (hcalls : ∀ command ∈ commands, command.isCall = false) :
    session.steps (View.whole.config config)
        (commands.map (Command.run (View.whole.config config))) =
      session.steps config (commands.map (Command.run config)) := by
  induction commands generalizing session with
  | nil => simp only [List.map_nil, Session.steps]
  | cons command rest ih =>
    have hcall := hcalls command List.mem_cons_self
    have hstep : session.step (View.whole.config config)
        (command.run (View.whole.config config)) = session.step config (command.run config) := by
      have hchannel : (View.whole.config config).channel = config.channel := rfl
      rw [Session.step, Session.step, Command.run_whole h.clearEvents hcall, hchannel]
    cases hresult : session.step config (command.run config) with
    | error abortion => simp only [List.map_cons, Session.steps, hstep, hresult]
    | ok result =>
      obtain ⟨shown, after⟩ := result
      have hafter := (h.leads_of_step hcall hresult).holding
      have hrest := ih hafter fun other hother => hcalls other (List.mem_cons_of_mem _ hother)
      simp only [List.map_cons, Session.steps, hstep, hresult, hrest]

namespace Program

/-- A program that leaves calls to handles goes in lockstep in all builds and on all kinds of
referents that lie in the same arena and are checked at the same time, whatever they do when they
are told which handles hold them. A violation is found in the same step, and its report goes to the
same channel and begins with the same line. Builds that differ in their assertions show exactly the
same. -/
theorem lockstep_of_checksFirst_eq {program other : Program} (hcalls : program.LeavesCalls)
    (hcommands : other.commands = program.commands)
    (hlog : other.config.log = program.config.log)
    (hkind : other.config.kind.checksFirst = program.config.kind.checksFirst)
    (harena : other.config.kind.arena = program.config.kind.arena) :
    Session.Lockstep program.config other.config program.commands {} {} ∧
      (∀ violation channel events,
        program.body.2 = .error (.violation violation channel events) →
        ∃ violation' events', other.body.2 = .error (.violation violation' channel events') ∧
          other.body.1.length = program.body.1.length ∧
          violation'.header = violation.header) ∧
      (other.config.build.tracking = program.config.build.tracking →
        other.config.kind = program.config.kind → other.body = program.body) := by
  have hconfig : View.plain.config program.config = View.plain.config other.config := by
    simp only [View.config, hkind, harena, hlog]
  have hlockstep := Session.sound_empty.lockstep hconfig hcalls Session.sound_empty rfl
  refine ⟨hlockstep, fun violation channel events hends => ?_, ?_⟩
  · obtain ⟨shown, abortion, hother, hlength, hplain⟩ :=
      hlockstep.exists_abortion (Prod.ext rfl hends)
    obtain ⟨violation', events', rfl, hheader⟩ := Abortion.eq_violation_of_plain hplain
    rw [← hcommands] at hother
    refine ⟨violation', events', ?_, ?_, hheader⟩
    · rw [body, hother]
    · rw [body, hother, hlength]
      rfl
  · intro htracking hkinds
    have hconfig : View.whole.config other.config = View.whole.config program.config := by
      simp only [View.config, htracking, hkinds, hlog]
    have hprogram := Session.steps_whole (@Session.sound_empty program.config) hcalls
    have hother := Session.steps_whole (@Session.sound_empty other.config) hcalls
    rw [body, body, hcommands, ← hprogram, ← hother, hconfig]

/-- A program that asks for a serial number, fails to make a reference of a pointer to nothing, and
destroys a referent too early. -/
def lockstepExample (build : Build) (kind : ReferentKind) : Program where
  config := ⟨build, kind, .trace⟩
  commands :=
    [.onReferent (.create "a" 1 none), .onHandle (.hold .pointer "p" .packed "a"),
      .onHandle (.copy "q" "p"), .look (.serial "q"), .onHandle (.null "z" .packed),
      .change (.swap "q" "z"), .onHandle (.toReference "y" "q"), .look (.isNull "q"),
      .onReferent (.destroy "a")]

/-- That program comes to the same with full diagnostics and with none, but for a serial number, and
also on referents that are checked before they drop their links. -/
theorem lockstep_lockstepExample :
    (lockstepExample ⟨true, true⟩ .recorder).body.1.map Step.outcome =
        [.answered .nothing, .answered .nothing, .answered .nothing, .answered (.serial 2),
          .answered .nothing, .answered .nothing, .panicked .releasedNull,
          .answered (.flag true)] ∧
      (lockstepExample ⟨false, false⟩ .mute).body.1.map Step.outcome =
        [.answered .nothing, .answered .nothing, .answered .nothing, .answered .nothing,
          .answered .nothing, .answered .nothing, .panicked .releasedNull,
          .answered (.flag true)] ∧
      (lockstepExample ⟨true, true⟩ .recorder).body.2.isOk = false ∧
      Session.Lockstep (lockstepExample ⟨true, true⟩ .recorder).config
        (lockstepExample ⟨false, false⟩ .mute).config
        (lockstepExample ⟨true, true⟩ .recorder).commands {} {} ∧
      Session.Lockstep (lockstepExample ⟨true, true⟩ { ReferentKind.early with
          showsCalls := true }).config
        (lockstepExample ⟨false, false⟩ { ReferentKind.early with keepsRoster := false }).config
        (lockstepExample ⟨true, true⟩ .early).commands {} {} ∧
      (lockstepExample ⟨true, false⟩ .recorder).body =
        (lockstepExample ⟨true, true⟩ .recorder).body := by
  have hcalls (kind : ReferentKind) : (lockstepExample ⟨true, true⟩ kind).LeavesCalls := by
    simp [LeavesCalls, lockstepExample, Command.isCall]
  have hbare := @lockstep_of_checksFirst_eq _ (lockstepExample ⟨false, false⟩ .mute)
    (hcalls .recorder) rfl rfl rfl rfl
  have hearly := @lockstep_of_checksFirst_eq _
    (lockstepExample ⟨false, false⟩ { ReferentKind.early with keepsRoster := false })
    (hcalls { ReferentKind.early with showsCalls := true }) rfl rfl rfl rfl
  have hcareless := @lockstep_of_checksFirst_eq _ (lockstepExample ⟨true, false⟩ .recorder)
    (hcalls .recorder) rfl rfl rfl rfl
  exact ⟨by decide +kernel, by decide +kernel, by decide +kernel, hbare.1, hearly.1,
    hcareless.2.2 rfl rfl⟩

end Program

end CountedHandles
