import CountedHandles.Proofs.Closing
import CountedHandles.Proofs.Logging
import CountedHandles.Proofs.Registration
import CountedHandles.Proofs.Wording
import Mathlib.Data.List.Sort

/-!
# Exact reports

A run that ends with a lifetime violation writes a single report of it. The report counts the handles
that outlive their referent and names them as the roster does at that moment, whatever order the
roster keeps its entries in. Which backtraces were captured when handles were registered is up to
the environment; if none was, the report has exactly one line for each handle after the first.
-/

namespace CountedHandles

namespace Roster

variable {roster : Roster} {serial : Serial} {provenance : Provenance}

/-- The entries of a roster as a report finds them: the serial numbers are collected in some order
and sorted, and each is looked up. -/
def collected (roster : Roster) (order : List Serial) : List (Serial × Provenance) :=
  (Sorting.sort (fun a b => a ≤ b) order).filterMap fun serial =>
    (roster.provenance? serial).map fun provenance => (serial, provenance)

/-- Lists in strictly increasing order of serial numbers are equal if they have the same entries. -/
theorem eq_of_increasing {first second : List (Serial × Provenance)}
    (hfirst : (first.map Prod.fst).Pairwise (· < ·))
    (hsecond : (second.map Prod.fst).Pairwise (· < ·))
    (hmem : ∀ entry, entry ∈ first ↔ entry ∈ second) : first = second := by
  have hnodup {entries : List (Serial × Provenance)}
      (hentries : (entries.map Prod.fst).Pairwise (· < ·)) : entries.Nodup :=
    List.Nodup.of_map Prod.fst (hentries.imp Nat.ne_of_lt)
  have hperm := (List.perm_ext_iff_of_nodup (hnodup hfirst) (hnodup hsecond)).mpr hmem
  rw [List.pairwise_map] at hfirst hsecond
  exact hperm.eq_of_pairwise (fun a b _ _ hab hba => absurd hab (Nat.lt_asymm hba)) hfirst hsecond

/-- A report finds the listing, in whatever order it comes across the serial numbers. -/
theorem collected_eq_listing {order : List Serial}
    (horder : order.Perm (roster.entries.map Prod.fst)) :
    roster.collected order = roster.listing := by
  have hsorted : (Sorting.sort (fun a b => a ≤ b) order).Pairwise (· < ·) := by
    have hincreasing := @Sorting.pairwise_lt_sort Nat id order
      (by simpa using horder.nodup_iff.mpr roster.nodup_keys)
    rwa [List.map_id] at hincreasing
  have hincreasing : ((roster.collected order).map Prod.fst).Pairwise (· < ·) := by
    rw [collected, List.pairwise_map, List.pairwise_filterMap]
    refine hsorted.imp fun hlt first hfirst second hsecond => ?_
    obtain ⟨_, -, rfl⟩ := Option.map_eq_some_iff.mp hfirst
    obtain ⟨_, -, rfl⟩ := Option.map_eq_some_iff.mp hsecond
    exact hlt
  refine eq_of_increasing hincreasing pairwise_lt_listing ?_
  rintro ⟨serial, provenance⟩
  rw [mem_listing_iff, collected, List.mem_filterMap]
  constructor
  · rintro ⟨other, -, hfound⟩
    obtain ⟨_, hprovenance, heq⟩ := Option.map_eq_some_iff.mp hfound
    cases heq
    exact hprovenance
  · intro hprovenance
    have hentry := mem_listing.mp (mem_listing_iff.mpr hprovenance)
    have hkey : serial ∈ roster.entries.map Prod.fst := List.mem_map.mpr ⟨_, hentry, rfl⟩
    exact ⟨serial, (Sorting.sort_perm _ _).mem_iff.mpr (horder.mem_iff.mpr hkey),
      by simp [hprovenance]⟩

end Roster

namespace Store

variable {config : Config} {store : Store} {referent : Referent} {violation : Violation}
  {serials : List Serial}

/-! ## The moment of the check -/

/-- Handles that are released are gone, and all others stay as they are. -/
theorem handles_releasedAll : (store.releasedAll config serials).handles =
    store.handles.filter fun handle => !serials.contains handle.serial := by
  induction serials generalizing store with
  | nil => exact (List.filter_eq_self.mpr fun _ _ => rfl).symm
  | cons serial rest ih =>
    rw [releasedAll_cons, ih, released, handles_tell, removeHandle, List.filter_filter]
    refine List.filter_congr fun handle _ => ?_
    by_cases hserial : handle.serial = serial <;> simp [hserial]

/-- Handles that are released leave all other registrations as they are. -/
theorem exists_mem_releasedAll_roster (hmem : referent ∈ store.referents) :
    ∃ after ∈ (store.releasedAll config serials).referents,
      after.name = referent.name ∧ after.address = referent.address ∧
        ∀ serial ∉ serials,
          after.roster.provenance? serial = referent.roster.provenance? serial := by
  induction serials generalizing store referent with
  | nil => exact ⟨referent, hmem, rfl, rfl, fun _ _ => rfl⟩
  | cons serial rest ih =>
    have hreleased := List.mem_map_of_mem (f := fun referent : Referent =>
      if store.target? serial = some referent.name then
        referent.receiveAll config [.notice (.unregister serial), .decrement] else referent) hmem
    rw [← referents_removeHandle, ← referents_tell, ← released] at hreleased
    obtain ⟨after, hafter, hname, haddress, hroster⟩ := ih hreleased
    refine ⟨after, hafter, hname.trans ?_, haddress.trans ?_, fun other hother => ?_⟩
    · split <;> simp
    · split <;> simp
    · rw [List.mem_cons, not_or] at hother
      rw [hroster other hother.2]
      split
      · rw [Referent.receiveAll_leave]
        split
        · rw [Roster.provenance?_erase, if_neg hother.1]
        · rfl
      · rfl

/-- The handles that hold a referent when it is checked are those that held it before, except for
links that are gone by then. -/
theorem holders_checkpoint : (store.checkpoint config referent).holders referent.address =
    (store.holders referent.address).filter fun handle =>
      config.kind.checksFirst || !referent.links.contains handle.serial := by
  unfold checkpoint
  split
  · rename_i hfirst
    simp [hfirst]
  · rename_i hfirst
    rw [holders, handles_releasedAll, List.filter_filter, holders, List.filter_filter]
    refine List.filter_congr fun handle _ => ?_
    simp [hfirst, Bool.and_comm]

/-- A violation counts and names the handles that its referent counts and names when it is checked,
and these are registered as they were before. -/
theorem Consistent.exists_checked (h : store.Consistent config) (hmem : referent ∈ store.referents)
    (hviolation : (store.checkpoint config referent).violationOf? referent.name = some violation) :
    ∃ checked ∈ (store.checkpoint config referent).referents,
      checked.name = referent.name ∧ checked.address = referent.address ∧
      violation = ⟨checked.count, checked.roster.listing⟩ ∧
      ∀ serial, checked.roster.contains serial = true →
        checked.roster.provenance? serial = referent.roster.provenance? serial := by
  have hconsistent := h.course (@Course.checkpoint config store referent)
  obtain ⟨checked, hchecked, hname, haddress, hroster⟩ :
      ∃ checked ∈ (store.checkpoint config referent).referents,
        checked.name = referent.name ∧ checked.address = referent.address ∧
          ∀ serial, checked.roster.contains serial = true →
            checked.roster.provenance? serial = referent.roster.provenance? serial := by
    unfold checkpoint
    split
    · exact ⟨referent, hmem, rfl, rfl, fun _ _ => rfl⟩
    · rename_i hfirst
      obtain ⟨checked, hchecked, hname, haddress, hroster⟩ :=
        @exists_mem_releasedAll_roster config store referent referent.links hmem
      refine ⟨checked, hchecked, hname, haddress, fun serial hcontains => hroster serial ?_⟩
      have hreleased := h.course (@Course.releasedAll config store referent.links)
      rw [(hreleased.reflects checked hchecked).contains_iff, holds_releasedAll] at hcontains
      exact hcontains.2.2
  refine ⟨checked, hchecked, hname, haddress, ?_, hroster⟩
  rw [violationOf?, ← hname, hconsistent.referent?_of_mem hchecked, Option.bind_some,
    Referent.violation?] at hviolation
  split at hviolation
  · cases hviolation
  · exact (Option.some.inj hviolation).symm

end Store

/-- The handles that outlive a referent which is destroyed: those that hold it, except for links
that are gone by the time when it is checked. -/
def Session.outliving (config : Config) (session : Session) (referent : Referent) : List Handle :=
  (session.store.holders referent.address).filter fun handle =>
    config.kind.checksFirst || !referent.links.contains handle.serial

/-- What is reported about a referent that is destroyed too early in a session. -/
structure Violation.Describes (config : Config) (session : Session) (referent : Referent)
    (violation : Violation) : Prop where
  /-- The handles that outlive the referent are those that hold it when it is checked. -/
  outliving_eq : (session.clearEvents.store.checkpoint config referent).holders referent.address =
    session.outliving config referent
  /-- It is about some handles, namely those that outlive the referent. -/
  outstanding_eq : 0 < violation.outstanding ∧
    violation.outstanding = (session.outliving config referent).length
  /-- The first line counts them, in the singular only if there is one. -/
  header_eq : violation.header =
    "checkedref lifetime violation: referent destroyed with " ++
      toString (session.outliving config referent).length ++ " outstanding checked pointer" ++
        if (session.outliving config referent).length = 1 then "" else "s"
  /-- The line of a handle gives its serial number and its origin. -/
  entryLine_eq : ∀ serial provenance, (serial, provenance) ∈ violation.registered →
    ∃ origin, Violation.entryLine (serial, provenance) =
        "  handle #" ++ toString serial ++ " (" ++ origin ++ ")" ∧
      (provenance = .created → origin = "constructed") ∧
      (∀ source, provenance = .copied source → origin = "copied from #" ++ toString source) ∧
      ∀ source, provenance = .moved source → origin = "moved from #" ++ toString source
  /-- The report is made up of the first line, the line of each registered handle in turn, and the
  backtrace that was captured for it, if any. -/
  report_eq : ∀ backtrace? : Serial → Option String, violation.report backtrace? =
    trimEnd (violation.header ++ "\n" ++ String.join (violation.registered.map fun entry =>
      Violation.entryLine entry ++ "\n" ++
        (backtrace? entry.1).elim "" fun backtrace => backtrace ++ "\n"))
  /-- If no backtrace was captured, it breaks into exactly these lines. -/
  lines_eq : violation.report.toList.splitOn '\n' =
    (violation.header :: violation.registered.map Violation.entryLine).map String.toList
  /-- If referents list their holders, there is one entry for each of them, in order. -/
  entries : config.listsHolders = true →
    violation.registered.length = (session.outliving config referent).length ∧
    (violation.registered.map Prod.fst).Pairwise (· < ·) ∧
    (violation.registered.map Prod.fst).Perm
      ((session.outliving config referent).map Handle.serial) ∧
    ∀ entry ∈ violation.registered, referent.roster.provenance? entry.1 = some entry.2
  /-- If they do not, the first line is all. -/
  no_entries : config.listsHolders = false → ∀ backtrace? : Serial → Option String,
    violation.report backtrace? = violation.header
  /-- The entries are what the referent lists when it is checked, however it keeps them. -/
  listing : ∃ checked ∈ (session.clearEvents.store.checkpoint config referent).referents,
    checked.name = referent.name ∧ checked.roster.listing = violation.registered ∧
      ∀ order, order.Perm (checked.roster.entries.map Prod.fst) →
        checked.roster.collected order = violation.registered

/-- A violation that is found describes the referent that has been destroyed. -/
theorem Session.Holding.describes {config : Config} {session : Session} {referent : Referent}
    {violation : Violation} (h : session.Sound config) (hmem : referent ∈ session.store.referents)
    (hviolation : (session.clearEvents.store.checkpoint config referent).violationOf?
      referent.name = some violation) : violation.Describes config session referent := by
  have hconsistent := h.clearEvents.consistent
  have hcheckpoint := hconsistent.course
    (@Store.Course.checkpoint config session.clearEvents.store referent)
  obtain ⟨checked, hchecked, hname, haddress, rfl, hroster⟩ :=
    hconsistent.exists_checked hmem hviolation
  have houtliving : (session.clearEvents.store.checkpoint config referent).holders
      referent.address = session.outliving config referent := by
    rw [Store.holders_checkpoint]
    rfl
  have hholders := haddress ▸ houtliving
  have hcount : checked.count = (session.outliving config referent).length := by
    rw [← hholders, (hcheckpoint.reflects checked hchecked).count_eq]
  have hpos : 0 < checked.count := by
    rw [Store.violationOf?, ← hname, hcheckpoint.referent?_of_mem hchecked, Option.bind_some,
      Referent.violation?] at hviolation
    split at hviolation
    · cases hviolation
    · omega
  refine ⟨houtliving, ⟨hpos, hcount⟩, hcount ▸ rfl, fun _ _ _ => Violation.exists_entryLine_eq,
    fun _ => Violation.report_eq, Violation.splitOn_report, fun hlists => ?_,
    fun hlists backtrace? => ?_, checked, hchecked, hname, rfl,
    fun order => Roster.collected_eq_listing⟩
  · have hperm := hcheckpoint.listing_perm_holders hlists hchecked
    rw [hholders] at hperm
    refine ⟨?_, Roster.pairwise_lt_listing, hperm, fun entry hentry => ?_⟩
    · simpa using hperm.length_eq
    · have hcontains := Roster.mem_map_fst_listing.mp (List.mem_map_of_mem (f := Prod.fst) hentry)
      rw [← hroster entry.1 hcontains]
      exact Roster.mem_listing_iff.mp hentry
  · have hnil : checked.roster.listing = [] := by
      rw [List.eq_nil_iff_forall_not_mem]
      intro entry hentry
      have hcontains := Roster.mem_map_fst_listing.mp (List.mem_map_of_mem (f := Prod.fst) hentry)
      rw [(hcheckpoint.reflects checked hchecked).contains_iff, hlists] at hcontains
      exact absurd hcontains.1 (by decide)
    exact Violation.report_of_registered_nil hnil

/-! ## What is written -/

/-- No event writes an error. -/
theorem Config.errors_eq_nil (config : Config) (events : List Event) :
    config.errors events = [] := by
  rw [errors, List.filterMap_eq_nil_iff]
  intro event _
  cases event with
  | log record => exact if_neg fun h => record.level_ne_error h.1
  | created handle => rfl
  | call received handles => rfl

/-- A violation is written once, to the channel of the run. -/
theorem Config.announce_eq (config : Config) (backtrace? : Serial → Option String)
    (violation : Violation) :
    config.announce backtrace? violation = [⟨config.channel, violation.report backtrace?⟩] := by
  unfold announce channel
  split <;> rfl

/-- A run that ends with a violation writes its report and nothing else. -/
theorem Transcript.emissions_of_violation {config : Config} {transcript : Transcript}
    {violation : Violation} {channel : Channel} {events : List Event}
    (backtrace? : Serial → Option String)
    (hends : transcript.abortion? = some (.violation violation channel events)) :
    transcript.emissions config backtrace? = [⟨config.channel, violation.report backtrace?⟩] := by
  rw [emissions, hends, Option.elim_some, Abortion.emissions, Config.errors_eq_nil,
    Config.errors_eq_nil, Config.announce_eq]
  rfl

namespace Program

/-- If the run of a program that leaves calls to handles cannot go on, a referent is destroyed too
early and that is all that is ever written: the report describes the referent as it is then, and it
goes to the log if this takes errors. With any other level of the log the same is done and the same
text written. -/
theorem report_describes {program : Program} {abortion : Abortion} (hcalls : program.LeavesCalls)
    (hends : program.run.abortion? = some abortion) :
    ∃ past rest session, ∃ referent ∈ session.store.referents, ∃ violation events,
      program.turns =
        past ++ Command.run program.config (.onReferent (.destroy referent.name)) :: rest ∧
      Session.steps program.config {} past = (program.run.steps, .ok session) ∧
      violation.Describes program.config session referent ∧
      abortion = .violation violation program.config.channel events ∧
      (program.config.channel = .log ↔ program.config.log.includes .error = true) ∧
      (∀ record, .log record ∈ program.run.steps.flatMap Step.events ++ events →
        record.level ≠ .error) ∧
      (∀ level, (program.withLog level).run = ⟨program.run.steps,
        some (.violation violation (program.withLog level).config.channel events)⟩) ∧
      ∀ level backtrace?,
        (program.withLog level).run.emissions (program.withLog level).config backtrace? =
          [⟨(program.withLog level).config.channel, violation.report backtrace?⟩] := by
  obtain ⟨past, rest, session, referent, hmem, hturns, hpast, htrail, violation, hviolation, rfl⟩ :=
    exists_trail_of_abortion hcalls hends
  have hother (level : LogLevel) : (program.withLog level).run = ⟨program.run.steps,
      some (.violation violation (program.withLog level).config.channel
        (session.clearEvents.store.checkpoint program.config referent).events)⟩ := by
    rw [run_withLog, hends]
    rfl
  refine ⟨past, rest, session, referent, hmem, violation, _, hturns, hpast,
    htrail.sound.describes hmem hviolation, rfl, ?_, fun record _ => record.level_ne_error,
    hother, fun level backtrace? => ?_⟩
  · unfold Config.channel
    cases program.config.log.includes .error <;> simp
  · rw [hother level]
    exact Transcript.emissions_of_violation backtrace? rfl

/-- The violation that ends the run of a program, if one does. -/
def violation? (program : Program) : Option Violation :=
  program.run.abortion?.bind fun
    | .violation violation _ _ => some violation
    | .collapse => none

/-- A program that destroys a referent while its own link, a pointer and a copy of that hold it. -/
def reportExample : Program where
  config := ⟨⟨true, true⟩, .ordinary, .error⟩
  commands :=
    [.onReferent (.create "a" 1 none), .onHandle (.hold .pointer "p" .raw "a"),
      .onHandle (.copy "q" "p"), .onReferent (.attach "a" "q"), .onHandle (.copy "r" "p"),
      .onReferent (.destroy "a")]

/-- The run of that program ends with a report of the pointer and its copy, but not of the link, and
without a log the same is written directly. -/
theorem report_reportExample :
    reportExample.violation? = some ⟨2, [(1, .created), (3, .copied 1)]⟩ ∧
      (⟨2, [(1, .created), (3, .copied 1)]⟩ : Violation).report =
        "checkedref lifetime violation: referent destroyed with 2 outstanding checked pointers\n" ++
          "  handle #1 (constructed)\n  handle #3 (copied from #1)" ∧
      ∃ session, ∃ referent ∈ session.store.referents, ∃ violation events,
        violation.Describes reportExample.config session referent ∧
        reportExample.run.abortion? = some (.violation violation .log events) ∧
        (reportExample.withLog .off).run.emissions (reportExample.withLog .off).config
          (fun _ => none) = [⟨.stderr, violation.report⟩] := by
  have hcalls : reportExample.LeavesCalls := by
    simp [LeavesCalls, reportExample, Command.isCall]
  have hviolates : reportExample.violation? = some ⟨2, [(1, .created), (3, .copied 1)]⟩ := by
    decide +kernel
  have hreport : (⟨2, [(1, .created), (3, .copied 1)]⟩ : Violation).report =
      "checkedref lifetime violation: referent destroyed with 2 outstanding checked pointers\n" ++
        "  handle #1 (constructed)\n  handle #3 (copied from #1)" := by
    rw [Violation.report_of_none]
    decide +kernel
  obtain ⟨abortion, hends, -⟩ := Option.bind_eq_some_iff.mp hviolates
  obtain ⟨_, _, session, referent, hmem, violation, events, _, _, hdescribes, rfl, _, _, _,
    hwrites⟩ := report_describes hcalls hends
  exact ⟨hviolates, hreport, session, referent, hmem, violation, events, hdescribes, hends,
    hwrites .off _⟩

end Program

end CountedHandles
