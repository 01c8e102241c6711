import CountedHandles.Proofs.Conduct
import CountedHandles.Proofs.Registration

/-!
# Histories

A program that calls no referent directly passes through stages, one for each command that is
completed. In builds that track handles its stages tell how every handle came to hold what it holds,
and the rosters of referents record just that: a handle that was created on its referent, or copied
from another one that held it, and that has stayed there since is entered so; every other handle is
entered as having taken over from the one that left when it last came.
-/

namespace CountedHandles

/-- One command of a program that has been completed. -/
structure Stage where
  /-- The session before the command. -/
  before : Session
  /-- The command. -/
  command : Command
  /-- What is shown of the command. -/
  shown : Step
  /-- The session after the command. -/
  after : Session

/-- The stages of a session that runs commands, up to the first that ends the program. -/
def Session.stages (config : Config) (session : Session) : List Command → List Stage
  | [] => []
  | command :: rest =>
    match session.step config (command.run config) with
    | .error _ => []
    | .ok (shown, after) => ⟨session, command, shown, after⟩ :: after.stages config rest

/-- The stages of a program until it closes. -/
def Program.stages (program : Program) : List Stage :=
  Session.stages program.config {} program.commands

/-- What the stages show is what the run shows. -/
theorem Session.map_shown_stages {config : Config} {session : Session} {commands : List Command} :
    (session.stages config commands).map Stage.shown =
      (session.steps config (commands.map (Command.run config))).1 := by
  induction commands generalizing session with
  | nil => rfl
  | cons command rest ih =>
    rw [List.map_cons, stages]
    cases hstep : session.step config (command.run config) with
    | error abortion => rw [steps_cons_of_error hstep, List.map_nil]
    | ok result =>
      obtain ⟨shown, after⟩ := result
      rw [steps_cons_of_ok hstep, List.map_cons, ih]

namespace Stage

/-- The moments from before a command until after it. -/
def moments (stage : Stage) : List Moment :=
  stage.before.store.handles :: stage.shown.events.filterMap Event.moment? ++
    [stage.after.store.handles]

/-- A handle holds an address at every moment of a stage. -/
def Holds (stage : Stage) (s : Serial) (address : Address) : Prop :=
  ∀ moment ∈ stage.moments, moment.Holds s address

end Stage

/-- A handle holds the referent with a given name at a given address. -/
def Store.HoldsReferent (store : Store) (s : Serial) (name : String) (address : Address) : Prop :=
  store.Holds s address ∧ store.HasAt name address

namespace Stage

/-- A command has been answered and has brought a new handle that holds a referent, directly or as a
copy of a named handle. -/
structure Brings (stage : Stage) (name : String) (address : Address) (s : Serial)
    (source? : Option String) : Prop where
  /-- The command has been answered. -/
  answered : ∃ answer, stage.shown.outcome = .answered answer
  /-- The command is for creating the handle, and the handle has the name that it gives. -/
  introduced : ∃ keeper, stage.command.introduces? = some (keeper, source?) ∧
    stage.after.serial? keeper = some s
  /-- The handle did not exist before. -/
  new : s ∉ stage.before.store.serials
  /-- The handle holds the referent. -/
  holds : stage.after.store.HoldsReferent s name address

/-- A handle has been created directly on a referent. -/
def Creates (stage : Stage) (name : String) (address : Address) (s : Serial) : Prop :=
  stage.Brings name address s none

/-- A handle has been created as a copy of another one while that held a referent. -/
def Copies (stage : Stage) (name : String) (address : Address) (source s : Serial) : Prop :=
  ∃ sourceName, stage.Brings name address s (some sourceName) ∧
    stage.before.serial? sourceName = some source ∧
    stage.before.store.HoldsReferent source name address

/-- During a command a handle has come to hold an address at the moment when another one stopped
holding it, and the other one does not hold it after the command. -/
def HandsOver (stage : Stage) (address : Address) (source s : Serial) : Prop :=
  Moment.TakesOver stage.moments address source s ∧ ¬ stage.after.store.Holds source address

end Stage

/-- At one of several stages something happened, and all later ones meet a condition. -/
def Since (stages : List Stage) (happened stays : Stage → Prop) : Prop :=
  ∃ past stage later, stages = past ++ stage :: later ∧ happened stage ∧ ∀ next ∈ later, stays next

/-- What happened last either happened at the last stage or is known from those before it. -/
theorem since_append_singleton {stages : List Stage} {last : Stage}
    {happened stays : Stage → Prop} :
    Since (stages ++ [last]) happened stays ↔
      happened last ∨ stays last ∧ Since stages happened stays := by
  constructor
  · rintro ⟨past, stage, later, hsplit, hhappened, hstays⟩
    rcases List.eq_nil_or_concat' later with rfl | ⟨later, final, rfl⟩
    · obtain ⟨-, rfl⟩ := List.append_singleton_inj.mp hsplit
      exact Or.inl hhappened
    · rw [← List.cons_append, ← List.append_assoc] at hsplit
      obtain ⟨rfl, rfl⟩ := List.append_singleton_inj.mp hsplit
      exact Or.inr ⟨hstays _ (by simp), past, stage, later, rfl, hhappened,
        fun next hnext => hstays next (List.mem_append_left _ hnext)⟩
  · rintro (hhappened | ⟨hlast, past, stage, later, rfl, hhappened, hstays⟩)
    · exact ⟨stages, last, [], rfl, hhappened, by simp⟩
    · refine ⟨past, stage, later ++ [last], by simp, hhappened, fun next hnext => ?_⟩
      rcases List.mem_append.mp hnext with hnext | hnext
      · exact hstays next hnext
      · rwa [List.mem_singleton.mp hnext]

/-! ## Stages -/

/-- A stage of a program that leaves calls to handles. -/
structure Stage.Occurs (config : Config) (stage : Stage) : Prop where
  /-- The stage starts from a sound session. -/
  sound : stage.before.Sound config
  /-- The command calls no referent directly. -/
  leaves : stage.command.isCall = false
  /-- The command is completed. -/
  step_eq : stage.before.step config (stage.command.run config) = .ok (stage.shown, stage.after)

namespace Stage.Occurs

variable {config : Config} {stage : Stage} {referent : Referent} {s source : Serial}
  {source? : Option String} {origin : Provenance}

/-- The moments of a stage are those that its events show, and those of its two sessions. -/
theorem moments_eq (h : stage.Occurs config) :
    stage.moments = (stage.before.store.handles :: stage.after.store.moments) ++
      [stage.after.store.handles] := by
  rw [moments, Session.events_of_step h.step_eq, Store.moments]

/-- The session after a stage is sound. -/
theorem sound_after (h : stage.Occurs config) : stage.after.Sound config :=
  (h.sound.leads_of_step h.leaves h.step_eq).holding

/-- A command that is answered does a deed, and any other one leaves everything as it was. -/
theorem conduct (h : stage.Occurs config) (hlists : config.listsHolders = true) :
    ((∃ answer, stage.shown.outcome = .answered answer) ∧
      stage.command.Does config stage.before.clearEvents stage.after) ∨
      stage.after = stage.before.clearEvents := by
  have hends := @Session.step_of_ends config _ _ _ _
    ((stage.command.ends_run h.sound.clearEvents h.leaves).and
      (stage.command.ends_does h.sound.clearEvents h.leaves hlists rfl))
  rw [h.step_eq] at hends
  rcases hends with ⟨answer, hshown, -, hdoes⟩ | ⟨refusal, -, hcut, -⟩ | ⟨cause, -, hcut, -⟩
  · exact Or.inl ⟨⟨answer, by rw [hshown]; rfl⟩, hdoes⟩
  · rcases hcut with hsame | ⟨_, -, -, hviolates⟩
    · exact Or.inr hsame
    · exact hviolates.elim
  · rcases hcut with ⟨hsame, -⟩ | ⟨_, -, -, hviolates⟩
    · exact Or.inr hsame
    · exact hviolates.elim

/-- No handle returns during a stage to what it held before. -/
theorem unbroken (h : stage.Occurs config) (hlists : config.listsHolders = true)
    (hmem : referent ∈ stage.after.store.referents) :
    Store.Unbroken stage.before.store.handles referent.address stage.after.store := by
  rcases h.conduct hlists with ⟨-, hdoes⟩ | hsame
  · exact hdoes.unbroken _ (h.sound_after.consistent.isSite _ (List.mem_map_of_mem hmem))
  · rw [hsame]
    exact .refl rfl

/-- The entries of rosters tell what the moments of a stage show. -/
theorem traces (h : stage.Occurs config) (hlists : config.listsHolders = true) :
    Store.Traces stage.before.clearEvents.store stage.after.store :=
  (h.sound.clearEvents.consistent.traces hlists rfl
    (h.sound.leads_of_step h.leaves h.step_eq).course).2

/-- A handle that has held a referent before and holds it after a stage has not left it, and its
entry is the same. -/
theorem stays (h : stage.Occurs config) (hlists : config.listsHolders = true)
    (hmem : referent ∈ stage.after.store.referents)
    (hholds : stage.after.store.Holds s referent.address)
    (hheld : stage.before.store.Holds s referent.address) :
    stage.Holds s referent.address ∧ ∃ old ∈ stage.before.store.referents,
      old.name = referent.name ∧ old.address = referent.address ∧
        referent.roster.provenance? s = old.roster.provenance? s := by
  have hall := (h.unbroken hlists hmem).holds_of_start hheld hholds
  constructor
  · intro moment hmoment
    rw [h.moments_eq, List.mem_append, List.mem_singleton] at hmoment
    rcases hmoment with hmoment | rfl
    · exact hall moment hmoment
    · exact hholds
  · rcases h.traces hlists referent hmem s hholds with ⟨-, hold⟩ |
      ⟨origin, -, ⟨hnew, -⟩ | ⟨source, -, htakes⟩⟩
    · exact hold
    · have hlt := h.sound.consistent.serial_lt s (Store.mem_serials_of_holds hheld)
      exact absurd hlt (Nat.not_lt.mpr hnew)
    · obtain ⟨past, last, next, later, hsplit, -, hcame, -⟩ := htakes
      exact absurd (hall last (hsplit ▸ List.mem_append_right _ List.mem_cons_self)) hcame

/-- A handle that comes to a referent is new, or is entered as having taken over from the one that
left. -/
theorem comes (h : stage.Occurs config) (hlists : config.listsHolders = true)
    (hmem : referent ∈ stage.after.store.referents)
    (hholds : stage.after.store.Holds s referent.address)
    (hcame : ¬ stage.before.store.Holds s referent.address) :
    ∃ origin, referent.roster.provenance? s = some origin ∧
      (stage.before.store.nextSerial ≤ s ∧ (∀ source, origin ≠ .moved source) ∨
        ∃ source, origin = .moved source ∧ stage.HandsOver referent.address source s) := by
  rcases h.traces hlists referent hmem s hholds with ⟨hall, -⟩ |
    ⟨origin, horigin, hnew | ⟨source, hsource, htakes⟩⟩
  · exact absurd (hall _ List.mem_cons_self) hcame
  · exact ⟨origin, horigin, Or.inl hnew⟩
  · refine ⟨origin, horigin, Or.inr ⟨source, hsource, ?_, fun hstill => ?_⟩⟩
    · rw [h.moments_eq]
      exact htakes.append fun moment hmoment => by rwa [List.mem_singleton.mp hmoment]
    · obtain ⟨past, last, next, later, hsplit, hleaves, -, -⟩ := htakes
      exact hleaves.left ((h.unbroken hlists hmem).holds_next hstill hsplit hleaves.held)

/-- A new handle that holds a referent is entered as the command tells that brought it. -/
theorem entered (h : stage.Occurs config) (hlists : config.listsHolders = true)
    (hmem : referent ∈ stage.after.store.referents)
    (hholds : stage.after.store.Holds s referent.address)
    (hnew : s ∉ stage.before.store.serials)
    (horigin : referent.roster.provenance? s = some origin) :
    (∃ answer, stage.shown.outcome = .answered answer) ∧ stage.command.Brings
      stage.before.clearEvents stage.after referent.name referent.address s origin := by
  rcases h.conduct hlists with ⟨hanswered, hdoes⟩ | hsame
  · obtain ⟨entry, hentry, hbrings⟩ := hdoes.news referent hmem s hnew hholds
    rw [horigin, Option.some.injEq] at hentry
    exact ⟨hanswered, hentry ▸ hbrings⟩
  · rw [hsame] at hholds
    exact absurd (Store.mem_serials_of_holds hholds) hnew

/-- A handle that a command brings is entered as having been created or copied. -/
theorem introduces_of_brings (h : stage.Occurs config) (hlists : config.listsHolders = true)
    (hmem : referent ∈ stage.after.store.referents)
    (horigin : referent.roster.provenance? s = some origin)
    (hbrings : stage.Brings referent.name referent.address s source?) :
    stage.before.Introduces referent.name referent.address source? origin := by
  obtain ⟨name, hcommand, -⟩ := hbrings.introduced
  obtain ⟨-, hentry⟩ := h.entered hlists hmem hbrings.holds.1 hbrings.new horigin
  rw [Command.Brings, hcommand] at hentry
  exact hentry.2

section Arrival

variable (h : stage.Occurs config) (hlists : config.listsHolders = true)
  (hmem : referent ∈ stage.after.store.referents)
  (hholds : stage.after.store.Holds s referent.address)
  (hcame : ¬ stage.before.store.Holds s referent.address)
  (horigin : referent.roster.provenance? s = some origin)

include h hlists hmem hholds hcame horigin

/-- A handle that comes to a referent without taking over is new, and its command has brought it. -/
theorem brings_of_comes (hfresh : ∀ source, origin ≠ .moved source) :
    stage.before.store.nextSerial ≤ s ∧
      ∃ source?, stage.Brings referent.name referent.address s source? ∧
        stage.before.Introduces referent.name referent.address source? origin := by
  obtain ⟨entry, hentry, hcomes⟩ := h.comes hlists hmem hholds hcame
  obtain rfl : origin = entry := Option.some.inj (horigin.symm.trans hentry)
  rcases hcomes with ⟨hnext, -⟩ | ⟨source, hmoved, -⟩
  · have hnew : s ∉ stage.before.store.serials := fun hexists =>
      Nat.not_lt.mpr hnext (h.sound.consistent.serial_lt s hexists)
    obtain ⟨hanswered, hbrings⟩ := h.entered hlists hmem hholds hnew horigin
    unfold Command.Brings at hbrings
    split at hbrings
    · rename_i keeper source? hcommand
      exact ⟨hnext, source?, ⟨hanswered, ⟨keeper, hcommand, hbrings.1⟩, hnew, hholds, referent,
        hmem, rfl, rfl⟩, hbrings.2⟩
    · obtain ⟨source, hmoved⟩ := hbrings
      exact absurd hmoved (hfresh source)
  · exact absurd hmoved (hfresh source)

/-- A handle that comes to a referent is entered as created exactly if it is created there. -/
theorem created_iff :
    origin = .created ↔ stage.Creates referent.name referent.address s := by
  refine ⟨?_, h.introduces_of_brings hlists hmem horigin⟩
  rintro rfl
  obtain ⟨-, source?, hbrings, hintroduces⟩ :=
    h.brings_of_comes hlists hmem hholds hcame horigin (by simp)
  cases source? with
  | none => exact hbrings
  | some sourceName =>
    obtain ⟨other, -, -, -, hcopied⟩ := hintroduces
    cases hcopied

/-- A handle that comes to a referent is entered as a copy exactly if it is copied from a handle
that holds the referent. -/
theorem copied_iff :
    origin = .copied source ↔ stage.Copies referent.name referent.address source s := by
  constructor
  · rintro rfl
    obtain ⟨-, source?, hbrings, hintroduces⟩ :=
      h.brings_of_comes hlists hmem hholds hcame horigin (by simp)
    cases source? with
    | none => cases hintroduces
    | some sourceName =>
      obtain ⟨other, hother, hheld, hlies, hcopied⟩ := hintroduces
      cases hcopied
      exact ⟨sourceName, hbrings, hother, hheld, hlies⟩
  · rintro ⟨sourceName, hbrings, hsource, -⟩
    obtain ⟨other, hother, -, -, hcopied⟩ :=
      h.introduces_of_brings hlists hmem horigin hbrings
    rw [hcopied, Option.some.inj (hsource.symm.trans hother)]

/-- A handle that comes to a referent as a copy is younger than what it is copied from. -/
theorem lt_of_copied (hcopied : origin = .copied source) : source < s := by
  obtain ⟨hnext, -⟩ := h.brings_of_comes hlists hmem hholds hcame horigin (by simp [hcopied])
  obtain ⟨-, -, -, hheld, -⟩ := (h.copied_iff hlists hmem hholds hcame horigin).mp hcopied
  exact Nat.lt_of_lt_of_le
    (h.sound.consistent.serial_lt source (Store.mem_serials_of_holds hheld)) hnext

end Arrival

end Stage.Occurs

/-! ## Entries -/

namespace Session

/-- The stages through which a program that leaves calls to handles has got to a session. -/
inductive History (config : Config) : List Stage → Session → Prop
  /-- Every program starts with the empty session. -/
  | start : History config [] {}
  /-- Every stage leads on. -/
  | next {stages : List Stage} {stage : Stage} (history : History config stages stage.before)
      (occurs : stage.Occurs config) : History config (stages ++ [stage]) stage.after

variable {config : Config} {stages : List Stage} {session : Session} {happened : Stage → Prop}
  {s : Serial} {address : Address}

/-- The session at the end of a history is sound. -/
theorem History.sound (h : History config stages session) : session.Sound config := by
  cases h with
  | start => exact sound_empty
  | next _ occurs => exact occurs.sound_after

/-- What a handle has held since something happened it holds at the end of a history. -/
theorem History.holds_of_since (h : History config stages session)
    (hsince : Since stages happened (·.after.store.Holds s address))
    (hhappened : ∀ stage, happened stage → stage.after.store.Holds s address) :
    session.store.Holds s address := by
  cases h with
  | start =>
    obtain ⟨past, stage, later, hsplit, -⟩ := hsince
    simp at hsplit
  | next _ _ =>
    rcases since_append_singleton.mp hsince with hlast | ⟨hlast, -⟩
    · exact hhappened _ hlast
    · exact hlast

end Session

/-- What the stages of a program tell about the entry of a handle for a referent. -/
structure Truthful (stages : List Stage) (name : String) (address : Address) (s : Serial)
    (origin : Provenance) : Prop where
  /-- A handle is entered as created if it was created on the referent and has held it since. -/
  created_iff : origin = .created ↔
    Since stages (·.Creates name address s) (·.after.store.Holds s address)
  /-- A handle is entered as a copy if it was copied from the other one while that held the referent
  and has held it since. -/
  copied_iff : ∀ source, origin = .copied source ↔
    Since stages (·.Copies name address source s) (·.after.store.Holds s address)
  /-- A copy is younger than what it was copied from. -/
  source_lt : ∀ source, origin = .copied source → source < s
  /-- A handle that is entered as having taken over did so when it last came. -/
  moved : ∀ source, origin = .moved source →
    Since stages (·.HandsOver address source s) (·.Holds s address)

variable {config : Config} {stages : List Stage} {stage : Stage} {referent : Referent}
  {name : String} {address : Address} {s : Serial} {origin : Provenance}

/-- An entry remains truthful as long as the handle stays. -/
theorem Truthful.stay (h : Truthful stages name address s origin)
    (hheld : stage.before.store.Holds s address) (hstays : stage.Holds s address) :
    Truthful (stages ++ [stage]) name address s origin := by
  have hafter : stage.after.store.Holds s address :=
    hstays _ (List.mem_append_right _ List.mem_cons_self)
  have hold : ∀ source?, ¬ stage.Brings name address s source? := fun _ hbrings =>
    hbrings.new (Store.mem_serials_of_holds hheld)
  refine ⟨?_, fun source => ?_, h.source_lt, fun source hsource => ?_⟩
  · rw [since_append_singleton, h.created_iff, Stage.Creates]
    simp only [hold, hafter, false_or, true_and]
  · rw [since_append_singleton, h.copied_iff source, Stage.Copies]
    simp only [hold, hafter, false_and, exists_false, false_or, true_and]
  · exact since_append_singleton.mpr (Or.inr ⟨hstays, h.moved source hsource⟩)

/-- A handle that comes to a referent is entered truthfully. -/
theorem Session.History.truthful_of_comes (h : History config stages stage.before)
    (hoccurs : stage.Occurs config) (hlists : config.listsHolders = true)
    (hmem : referent ∈ stage.after.store.referents)
    (hholds : stage.after.store.Holds s referent.address)
    (hcame : ¬ stage.before.store.Holds s referent.address) :
    ∃ origin, referent.roster.provenance? s = some origin ∧
      Truthful (stages ++ [stage]) referent.name referent.address s origin := by
  obtain ⟨origin, horigin, hcomes⟩ := hoccurs.comes hlists hmem hholds hcame
  -- Whatever happened to the handle before this stage, it has not held the referent since.
  have hlast {happened : Stage → Prop}
      (hhappened : ∀ stage, happened stage → stage.after.store.Holds s referent.address) :
      Since (stages ++ [stage]) happened (·.after.store.Holds s referent.address) ↔
        happened stage :=
    since_append_singleton.trans (or_iff_left fun hpast =>
      hcame (h.holds_of_since hpast.2 hhappened))
  refine ⟨origin, horigin, ?_, fun source => ?_, fun source => ?_, fun source hmoved => ?_⟩
  · rw [hlast fun _ hcreates => hcreates.holds.1]
    exact hoccurs.created_iff hlists hmem hholds hcame horigin
  · rw [hlast fun _ ⟨_, hbrings, _⟩ => hbrings.holds.1]
    exact hoccurs.copied_iff hlists hmem hholds hcame horigin
  · exact hoccurs.lt_of_copied hlists hmem hholds hcame horigin
  · rcases hcomes with ⟨-, hfresh⟩ | ⟨other, hother, hhands⟩
    · exact absurd hmoved (hfresh source)
    · cases hmoved.symm.trans hother
      exact since_append_singleton.mpr (Or.inl hhands)

/-- Every handle that holds a referent is entered truthfully. -/
theorem Session.History.truthful {session : Session} (h : History config stages session)
    (hlists : config.listsHolders = true) (hmem : referent ∈ session.store.referents)
    (hholds : session.store.Holds s referent.address) :
    ∃ origin, referent.roster.provenance? s = some origin ∧
      Truthful stages referent.name referent.address s origin := by
  induction h generalizing referent with
  | start => exact absurd hmem List.not_mem_nil
  | @next stages stage history occurs ih =>
    by_cases hheld : stage.before.store.Holds s referent.address
    · obtain ⟨hstays, old, hold, hname, haddress, hsame⟩ := occurs.stays hlists hmem hholds hheld
      rw [← haddress] at hheld hstays
      obtain ⟨origin, horigin, htruthful⟩ := ih hold hheld
      rw [hsame, ← hname, ← haddress]
      exact ⟨origin, horigin, htruthful.stay hheld hstays⟩
    · exact history.truthful_of_comes occurs hlists hmem hholds hheld

/-! ## Programs -/

/-- Commands lead on through their stages. -/
theorem Session.History.onward {session after : Session} {commands : List Command}
    {steps : List Step} (h : History config stages session)
    (hcalls : ∀ command ∈ commands, command.isCall = false)
    (hrun : session.steps config (commands.map (Command.run config)) = (steps, .ok after)) :
    History config (stages ++ session.stages config commands) after := by
  induction commands generalizing session stages steps with
  | nil =>
    cases hrun
    rwa [Session.stages, List.append_nil]
  | cons command rest ih =>
    obtain ⟨shown, between, later, hstep, hrest, rfl⟩ := step_of_steps_cons hrun
    have hnext := @History.next config stages ⟨session, command, shown, between⟩ h
      ⟨h.sound, hcalls command List.mem_cons_self, hstep⟩
    have hhistory := ih hnext (fun other hother => hcalls other (List.mem_cons_of_mem _ hother))
      hrest
    rw [Session.stages, hstep]
    rwa [List.append_assoc] at hhistory

namespace Program

/-- In builds that track handles the origins that the roster of a referent gives are true wherever a
program gets that leaves calls to handles. A handle is entered as created exactly if it was created
directly on the referent and has held it after every command since, and as a copy exactly if it was
copied from an older handle while that held the referent and has held it after every command since.
Any other is entered as having taken over from the one handle that left the referent at the very
moment when the entered one last came there, and that did not return during that command. -/
theorem origins_truthful {program : Program} {steps : List Step} {session : Session}
    {referent : Referent} {s : Serial} {origin : Provenance}
    (hlists : program.config.listsHolders = true) (hcalls : program.LeavesCalls)
    (hbody : program.body = (steps, .ok session))
    (hmem : referent ∈ session.store.referents)
    (hentry : (s, origin) ∈ referent.roster.listing) :
    program.stages.map Stage.shown = steps ∧
    (origin = .created ↔
      Since program.stages (·.Creates referent.name referent.address s)
        (·.after.store.Holds s referent.address)) ∧
    (∀ source, origin = .copied source ↔
      Since program.stages (·.Copies referent.name referent.address source s)
        (·.after.store.Holds s referent.address)) ∧
    (∀ source, origin = .copied source → source < s) ∧
    (¬ Since program.stages (·.Creates referent.name referent.address s)
        (·.after.store.Holds s referent.address) →
      (∀ source, ¬ Since program.stages (·.Copies referent.name referent.address source s)
        (·.after.store.Holds s referent.address)) →
      ∃ source, origin = .moved source ∧
        Since program.stages (·.HandsOver referent.address source s)
          (·.Holds s referent.address)) := by
  have hhistory : Session.History program.config program.stages session :=
    Session.History.start.onward hcalls hbody
  have horigin := Roster.mem_listing_iff.mp hentry
  have hlisted : referent.roster.contains s = true := by
    rw [Roster.contains, horigin, Option.isSome_some]
  have hholds := ((hhistory.sound.consistent.reflects referent hmem).contains_iff s).mp hlisted
  obtain ⟨entry, hfound, htruthful⟩ := hhistory.truthful hlists hmem hholds.2
  obtain rfl : origin = entry := Option.some.inj (horigin.symm.trans hfound)
  refine ⟨?_, htruthful.created_iff, htruthful.copied_iff, htruthful.source_lt,
    fun hcreated hcopied => ?_⟩
  · rw [stages, Session.map_shown_stages]
    exact congrArg Prod.fst hbody
  cases horigin : origin with
  | created => exact absurd (htruthful.created_iff.mp horigin) hcreated
  | copied source => exact absurd ((htruthful.copied_iff source).mp horigin) (hcopied source)
  | moved source => exact ⟨source, rfl, htruthful.moved source horigin⟩

/-- A program in which one handle leaves its referent and returns, and a copy is swapped with a
handle to the same referent. -/
def originsExample : Program where
  config := ⟨⟨true, true⟩, .ordinary, .off⟩
  commands :=
    [.onReferent (.create "a" 1 none), .onReferent (.create "b" 2 none),
      .onHandle (.hold .pointer "p" .raw "a"), .onHandle (.copy "q" "p"),
      .onHandle (.hold .pointer "r" .raw "b"), .change (.swap "p" "r"), .change (.swap "p" "r"),
      .onHandle (.hold .pointer "t" .raw "a"), .change (.swap "q" "t")]

/-- After that program the first referent tells of a handle that took over, a copy and a handle that
was created on it. -/
theorem origins_originsExample :
    originsExample.body = (originsExample.body.1, .ok originsExample.final) ∧
      ∃ referent ∈ originsExample.final.store.referents,
        referent.roster.listing = [(1, .moved 3), (2, .copied 1), (4, .created)] ∧
        Since originsExample.stages (·.HandsOver referent.address 3 1)
          (·.Holds 1 referent.address) ∧
        Since originsExample.stages (·.Copies referent.name referent.address 1 2)
          (·.after.store.Holds 2 referent.address) ∧
        Since originsExample.stages (·.Creates referent.name referent.address 4)
          (·.after.store.Holds 4 referent.address) := by
  have hcalls : originsExample.LeavesCalls := by
    simp [LeavesCalls, originsExample, Command.isCall]
  have hbody : originsExample.body = (originsExample.body.1, .ok originsExample.final) := rfl
  have hlisting : ∃ referent ∈ originsExample.final.store.referents,
      referent.roster.listing = [(1, .moved 3), (2, .copied 1), (4, .created)] := by
    decide +kernel
  obtain ⟨referent, hmem, hentries⟩ := hlisting
  refine ⟨hbody, referent, hmem, hentries, ?_, ?_, ?_⟩
  · obtain ⟨-, hcreated, hcopied, -, hmoved⟩ :=
      @origins_truthful _ _ _ _ 1 (.moved 3) rfl hcalls hbody hmem (by simp [hentries])
    obtain ⟨source, hsource, hhands⟩ := hmoved (fun hsince => by cases hcreated.mpr hsince)
      fun other hsince => by cases (hcopied other).mpr hsince
    cases hsource
    exact hhands
  · obtain ⟨-, -, hcopied, -⟩ :=
      @origins_truthful _ _ _ _ 2 (.copied 1) rfl hcalls hbody hmem (by simp [hentries])
    exact (hcopied 1).mp rfl
  · obtain ⟨-, hcreated, -⟩ :=
      @origins_truthful _ _ _ _ 4 .created rfl hcalls hbody hmem (by simp [hentries])
    exact hcreated.mp rfl

end Program

end CountedHandles
