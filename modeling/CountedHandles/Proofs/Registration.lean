import CountedHandles.Proofs.Counting
import CountedHandles.Proofs.Numbering

/-!
# Exact rosters

In builds that track handles a referent that keeps a roster lists exactly the handles that hold it,
in order of their serial numbers. A handle has its number to itself and keeps it wherever it is
moved.
-/

namespace CountedHandles

/-- Values with different keys are in strictly increasing order once they are sorted by these. -/
theorem Sorting.pairwise_lt_sort {key : α → Nat} {values : List α}
    (hnodup : (values.map key).Nodup) :
    ((sort (fun a b => key a ≤ key b) values).map key).Pairwise (· < ·) := by
  have hsorted := @pairwise_sort α (fun a b => key a ≤ key b)
    (fun a b => by simpa using Nat.le_total (key a) (key b))
    (fun a b c => by simpa using Nat.le_trans) values
  have hle : ((sort (fun a b => key a ≤ key b) values).map key).Pairwise (· ≤ ·) :=
    List.pairwise_map.mpr (hsorted.imp fun hab => by simpa using hab)
  have hne := ((sort_perm (fun a b => key a ≤ key b) values).map key).nodup_iff.mpr hnodup
  exact (hle.and hne).imp fun hab => Nat.lt_of_le_of_ne hab.1 hab.2

namespace Roster

variable {roster : Roster} {serial : Serial} {provenance : Provenance}

/-- The listing shows the provenance that is recorded for a handle. -/
theorem mem_listing_iff :
    (serial, provenance) ∈ roster.listing ↔ roster.provenance? serial = some provenance := by
  rw [mem_listing, provenance?, Option.map_eq_some_iff]
  constructor
  · intro hmem
    exact ⟨_, (find?_key_eq_some_iff roster.nodup_keys).mpr ⟨hmem, rfl⟩, rfl⟩
  · rintro ⟨entry, hfound, rfl⟩
    obtain ⟨hmem, rfl⟩ := (find?_key_eq_some_iff roster.nodup_keys).mp hfound
    exact hmem

/-- The listing names a handle exactly if it is registered. -/
theorem mem_map_fst_listing :
    serial ∈ roster.listing.map Prod.fst ↔ roster.contains serial = true := by
  have hmem : serial ∈ roster.listing.map Prod.fst ↔ serial ∈ roster.entries.map Prod.fst :=
    ((Sorting.sort_perm _ _).map Prod.fst).mem_iff
  rw [hmem, contains, provenance?, Option.isSome_map, List.find?_isSome, List.mem_map]
  simp

/-- The listing is in strictly increasing order of serial numbers. -/
theorem pairwise_lt_listing : (roster.listing.map Prod.fst).Pairwise (· < ·) :=
  Sorting.pairwise_lt_sort roster.nodup_keys

end Roster

/-- The serial numbers of the handles that come into being in a step. -/
def Step.born (step : Step) : List Serial :=
  (step.events.filterMap Event.created?).map Handle.serial

/-- What becomes of the serial number of a handle that a command moves to another keeper. -/
def Command.Moves (before after : Session) : Command → Prop
  | .onHandle (.rename name source) => after.keptBy (.name name) = before.keptBy (.name source)
  | .onReferent (.attach referent handle) =>
    after.keptBy (.referent referent) =
      before.keptBy (.referent referent) ++ before.keptBy (.name handle)
  | .onReferent (.detach handle referent index) =>
    after.keptBy (.name handle) = (before.keptBy (.referent referent))[index]?.toList
  | _ => True

namespace Store

variable {config : Config} {store : Store} {first second : Referent} {serial : Serial}

/-- Only one referent lists a handle. -/
theorem Consistent.eq_of_contains (h : store.Consistent config) (hfirst : first ∈ store.referents)
    (hsecond : second ∈ store.referents) (hfirstLists : first.roster.contains serial = true)
    (hsecondLists : second.roster.contains serial = true) : first = second := by
  rw [(h.reflects first hfirst).contains_iff] at hfirstLists
  rw [(h.reflects second hsecond).contains_iff] at hsecondLists
  obtain ⟨-, handle, hmem, hserial, haddress⟩ := hfirstLists
  obtain ⟨-, other, hother, hotherSerial, hotherAddress⟩ := hsecondLists
  have hsame := List.inj_on_of_nodup_map h.nodup_serials hmem hother
    (hserial.trans hotherSerial.symm)
  refine List.inj_on_of_nodup_map h.nodup_sites hfirst hsecond ?_
  rw [← haddress, hsame, hotherAddress]

/-- A referent that lists its holders lists exactly those. -/
theorem Consistent.listing_perm_holders {referent : Referent} (h : store.Consistent config)
    (hlists : config.listsHolders = true) (hmem : referent ∈ store.referents) :
    (referent.roster.listing.map Prod.fst).Perm
      ((store.holders referent.address).map Handle.serial) := by
  have hnodup : ((store.holders referent.address).map Handle.serial).Nodup :=
    h.nodup_serials.sublist (List.filter_sublist.map Handle.serial)
  refine (List.perm_ext_iff_of_nodup (Roster.pairwise_lt_listing.imp Nat.ne_of_lt) hnodup).mpr ?_
  intro serial
  rw [Roster.mem_map_fst_listing, (h.reflects referent hmem).contains_iff]
  simp only [hlists, true_and, Holds, holders, List.mem_map, List.mem_filter, beq_iff_eq,
    and_assoc]
  exact exists_congr fun handle => and_congr_right fun _ => and_comm

end Store

namespace Session

open Turn

variable {config : Config} {session after : Session} {referent : Referent} {command : Command}
  {steps : List Step} {shown : Step}

/-- A referent of a sound session lists the handles that hold it, wherever they are kept. -/
theorem Holding.listing_perm (h : session.Sound config) (hlists : config.listsHolders = true)
    (hmem : referent ∈ session.store.referents) :
    (referent.roster.listing.map Prod.fst).Perm
      ((session.keptHolders referent.address).map Handle.serial) :=
  (h.consistent.listing_perm_holders hlists hmem).trans
    (h.keptHolders_perm.map Handle.serial).symm

/-- The roster of a referent that lists its holders is shown on demand. -/
theorem Holding.step_roster (h : session.Sound config) (hlists : config.listsHolders = true)
    (hmem : referent ∈ session.store.referents) :
    session.step config (Command.run config (.onReferent (.roster referent.name))) =
      .ok (⟨.answered (.registrations referent.roster.listing), session.counts, []⟩,
        session.clearEvents) := by
  have hfound : session.clearEvents.store.referent? referent.name = some referent :=
    (Store.referent?_eq_some_iff h.consistent.nodup_names).mpr ⟨hmem, rfl⟩
  have htracking : config.build.tracking = true := (Bool.and_eq_true_iff.mp hlists).1
  have hrun : Command.run config (.onReferent (.roster referent.name)) session.clearEvents =
      .ok (.registrations referent.roster.listing) session.clearEvents := by
    simp only [Command.run, ReferentCommand.run, run_bind, run_referent hfound,
      Config.shownRoster?, htracking, if_true]
    rfl
  rw [step, hrun]
  rfl

/-- A step that is answered moves serial numbers along with their handles. -/
theorem Holding.moves_of_step {answer : Answer} (h : session.Sound config)
    (hstep : session.step config (command.run config) = .ok (shown, after))
    (hanswer : shown.outcome = .answered answer) : command.Moves session after := by
  have hrefuse : ∀ refusal, (fun (stop : Stop) (_ : Session) => ∃ refusal, stop = .refused refusal)
      (.refused refusal) session.clearEvents := fun refusal => ⟨refusal, rfl⟩
  have hanswered {turn : Turn Answer} {done : Session → Prop}
      (hends : turn.Ends session.clearEvents (fun _ after => done after) fun stop _ =>
        ∃ refusal, stop = .refused refusal)
      (hstep : session.step config turn = .ok (shown, after)) : done after := by
    have hcases := @step_of_ends config _ _ _ _ hends
    rw [hstep] at hcases
    rcases hcases with ⟨_, -, hdone⟩ | ⟨_, rfl, -⟩ | ⟨_, -, _, hcut⟩
    · exact hdone
    · cases hanswer
    · cases hcut
  unfold Command.Moves
  split
  · simpa using (hanswered (HandleCommand.ends_rename h.clearEvents hrefuse) hstep).2
  · simpa using (hanswered (ReferentCommand.ends_attach h.clearEvents hrefuse) hstep).2
  · simpa using (hanswered (ReferentCommand.ends_detach h.clearEvents hrefuse) hstep).2
  · trivial

/-- Numbers that are given out one after the other make one range. -/
theorem range'_append_range' {next count : Nat} (h : 1 ≤ next) :
    1 ≤ next + count ∧ List.range' 1 (next - 1) ++ List.range' next count =
      List.range' 1 (next + count - 1) := by
  refine ⟨by omega, ?_⟩
  have hsplit : next + count - 1 = (next - 1) + count := by omega
  have hnext : 1 + (next - 1) = next := by omega
  rw [hsplit, ← List.range'_append_1, hnext]

/-- The steps of a program tell which serial numbers it has given out, namely all up to the next. -/
theorem Reached.born_eq (h : Reached config steps session) :
    1 ≤ session.store.nextSerial ∧
      steps.flatMap Step.born = List.range' 1 (session.store.nextSerial - 1) := by
  induction h with
  | start => exact ⟨Nat.le_refl 1, rfl⟩
  | next reached leaves step_eq ih =>
    obtain ⟨hone, hborn⟩ := ih
    rename_i session after command shown
    obtain ⟨count, hnext, hstepBorn⟩ :=
      Store.Course.numbered (reached.sound.leads_of_step leaves step_eq).course
    have hshown : shown.born = List.range' session.store.nextSerial count := by
      rw [Step.born, events_of_step step_eq]
      exact hstepBorn
    rw [List.flatMap_append, List.flatMap_singleton, hborn, hshown, hnext]
    exact range'_append_range' hone

/-- Every handle that exists is among those that have come into being. -/
theorem Reached.serials_subset_born (h : Reached config steps session) :
    session.store.serials ⊆ steps.flatMap Step.born := by
  induction h with
  | start => exact List.nil_subset _
  | next reached leaves step_eq ih =>
    rename_i steps session after command shown
    intro serial hmem
    obtain ⟨handle, hhandle, rfl⟩ := List.mem_map.mp hmem
    rw [List.flatMap_append, List.flatMap_singleton, List.mem_append]
    have hsound := reached.sound
    have hleads := hsound.leads_of_step leaves step_eq
    rcases Nat.lt_or_ge handle.serial session.store.nextSerial with hbefore | hlater
    · obtain ⟨old, hold, hserial, -, -⟩ :=
        hsound.clearEvents.consistent.descends hleads.course handle hhandle hbefore
      exact Or.inl (ih (hserial ▸ List.mem_map_of_mem hold))
    · obtain ⟨count, hnext, hborn⟩ := Store.Course.numbered hleads.course
      have hlt := hleads.holding.consistent.serial_lt _ hmem
      rw [hnext] at hlt
      refine Or.inr ?_
      rw [Step.born, events_of_step step_eq, ← Store.born, hborn]
      exact List.mem_append_right _ (List.mem_range'_1.mpr ⟨hlater, hlt⟩)

end Session

namespace Program

/-- Wherever a program gets that leaves calls to handles, if its referents list their holders: all
handles that have come into being, the temporary ones included, have different serial numbers; every
step leaves every handle its number, its form and its scheme, and moves the number with the handle;
and every referent lists, in increasing order, the handles that hold it and no others, so that no
handle is listed by two referents, and shows this list on demand. -/
theorem listing_perm_keptHolders {program : Program} {steps : List Step} {session : Session}
    (hlists : program.config.listsHolders = true) (hcalls : program.LeavesCalls)
    (hbody : program.body = (steps, .ok session)) :
    ((steps.flatMap Step.born).Nodup ∧ session.store.serials ⊆ steps.flatMap Step.born) ∧
    (∀ (command : Command) shown after, command.isCall = false →
      session.step program.config (command.run program.config) = .ok (shown, after) →
      (∀ keeper ∉ command.touches, after.keptBy keeper = session.keptBy keeper) ∧
      (∀ answer, shown.outcome = .answered answer → command.Moves session after) ∧
      session.store.Descends after.store) ∧
    (∀ referent ∈ session.store.referents,
      (referent.roster.listing.map Prod.fst).Perm
        ((session.keptHolders referent.address).map Handle.serial) ∧
      (referent.roster.listing.map Prod.fst).Pairwise (· < ·) ∧
      referent.roster.listing.length = referent.count ∧
      session.step program.config
          (Command.run program.config (.onReferent (.roster referent.name))) =
        .ok (⟨.answered (.registrations referent.roster.listing), session.counts, []⟩,
          session.clearEvents)) ∧
    (∀ first ∈ session.store.referents, ∀ second ∈ session.store.referents, ∀ serial,
      first.roster.contains serial = true → second.roster.contains serial = true →
        first = second) := by
  have hreached := reached_of_body hcalls hbody
  have hsound := hreached.sound
  refine ⟨⟨?_, ?_⟩, ?_, fun referent hmem => ⟨?_, Roster.pairwise_lt_listing, ?_,
    hsound.step_roster hlists hmem⟩, ?_⟩
  · rw [hreached.born_eq.2]
    exact List.nodup_range'
  · exact hreached.serials_subset_born
  · intro command shown after hcall hstep
    have hleads := hsound.leads_of_step hcall hstep
    refine ⟨fun keeper hkeeper => ?_, fun answer => hsound.moves_of_step hstep, ?_⟩
    · simpa using hleads.keptBy_eq keeper hkeeper
    · exact hsound.clearEvents.consistent.descends hleads.course
  · exact hsound.listing_perm hlists hmem
  · have hlength := (hsound.listing_perm hlists hmem).length_eq
    rw [List.length_map, List.length_map] at hlength
    rw [hlength, hsound.keptHolders_perm.length_eq]
    exact (hsound.consistent.reflects referent hmem).count_eq.symm
  · intro first hfirst second hsecond serial hfirstLists hsecondLists
    exact hsound.consistent.eq_of_contains hfirst hsecond hfirstLists hsecondLists

/-- A program whose handles are copied, swapped, attached to a referent and given up again. -/
def registrationExample : Program where
  config := ⟨⟨true, true⟩, .ordinary, .off⟩
  commands :=
    [.onReferent (.create "a" 1 none), .onReferent (.create "b" 2 none),
      .onHandle (.hold .pointer "p" .raw "a"), .onHandle (.copy "q" "p"),
      .onHandle (.hold .pointer "r" .raw "b"), .change (.swap "p" "r"),
      .onReferent (.attach "b" "q"), .change (.clear "r")]

/-- After that program one referent lists its link and the other the pointer that was swapped to it.
-/
theorem listing_registrationExample :
    registrationExample.body = (registrationExample.body.1, .ok registrationExample.final) ∧
      registrationExample.final.store.referents.map
        (fun referent => referent.roster.listing.map Prod.fst) = [[2], [1]] ∧
      registrationExample.body.1.flatMap Step.born = [1, 2, 3, 4] ∧
      (registrationExample.body.1.flatMap Step.born).Nodup := by
  have hcalls : registrationExample.LeavesCalls := by
    simp [LeavesCalls, registrationExample, Command.isCall]
  have hbody : registrationExample.body =
      (registrationExample.body.1, .ok registrationExample.final) := rfl
  have hexact := listing_perm_keptHolders rfl hcalls hbody
  exact ⟨hbody, by decide +kernel, rfl, hexact.1.1⟩

end Program

end CountedHandles
