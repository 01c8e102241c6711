import CountedHandles.Proofs.Borrowing
import CountedHandles.Proofs.Deliveries

/-!
# Rosters of a run

In builds that keep rosters the roster of a referent is what the notices make of it that the referent
has heard since the start of the run. Whoever follows these notices in a cell of his own therefore
ends with the same roster.
-/

namespace CountedHandles

variable {config : Config} {referent : Referent} {messages : List Message} {name : String}

/-- A roster that lists no handle is empty. -/
theorem Roster.eq_empty_of_contains {roster : Roster}
    (h : ∀ serial, roster.contains serial = false) : roster = .empty := by
  obtain ⟨entries, hnodup⟩ := roster
  cases entries with
  | nil => rfl
  | cons entry rest =>
    have hfirst := h entry.1
    simp [contains, provenance?] at hfirst

/-- Messages change a roster as the notices among them do. -/
theorem Referent.roster_receiveAll (hlists : config.listsHolders = true) :
    (referent.receiveAll config messages).roster =
      referent.roster.afterAll (messages.filterMap Message.notice?) := by
  induction messages generalizing referent with
  | nil => rfl
  | cons message messages ih =>
    rw [receiveAll_cons, ih]
    cases message with
    | increment => rfl
    | decrement => rfl
    | notice notice =>
      rw [receive, if_pos hlists]
      rfl

namespace Store

variable {store before after : Store} {heard past : List Message} {sent : List Event}

/-- A referent with a name has the roster that some messages make. -/
def Charts (store : Store) (name : String) (heard : List Message) : Prop :=
  ∀ referent ∈ store.referents, referent.name = name →
    referent.roster = Roster.empty.afterAll (heard.filterMap Message.notice?)

/-- What is delivered is put down in the roster. -/
theorem Delivers.charts (h : Delivers config before sent after)
    (hlists : config.listsHolders = true) (hcharts : before.Charts name heard) :
    after.Charts name (heard ++ sent.filterMap (Event.messageTo? name)) := by
  intro later hmem hname
  rw [h.referents_eq] at hmem
  obtain ⟨referent, hbefore, rfl⟩ := List.mem_map.mp hmem
  rw [Referent.name_hear] at hname
  rw [Referent.hear, Referent.roster_receiveAll hlists, hcharts referent hbefore hname, hname,
    List.filterMap_append]
  exact List.foldl_append.symm

/-- No handle is attached under a name that no referent has. -/
theorem WellFormed.notMem_attachedTo (h : store.WellFormed) (hname : name ∉ store.names)
    (serial : Serial) : serial ∉ store.attachedTo name := by
  rw [mem_attachedTo, h.target?_eq_some_iff]
  rintro ⟨referent, hmem, rfl, -⟩
  exact hname (List.mem_map_of_mem hmem)

/-- Whatever happens to a referent in an act is put down in its roster. -/
theorem Act.charts (hact : Act config before after) (h : before.Consistent config)
    (hlists : config.listsHolders = true)
    (hfollows : Ledger.empty.Follows (past ++ before.heard name) (before.ledger name))
    (hcharts : before.Charts name (past ++ before.heard name)) :
    after.Charts name (past ++ after.heard name) := by
  have hdelivered {sent : List Event} {after : Store} (h : Delivers config before sent after) :
      after.Charts name (past ++ after.heard name) := by
    rw [heard, h.events_eq, List.filterMap_append, ← heard, ← List.append_assoc]
    exact h.charts hlists hcharts
  cases hact with
  | create settled provenance_eq => exact hdelivered .created
  | swap found_first found_second form_eq scheme_eq =>
    obtain ⟨sent, hswapped, -⟩ := Delivers.swapped
    exact hdelivered hswapped
  | release serial => exact hdelivered .released
  | makeReference found form_eq live =>
    obtain ⟨sent, hmade⟩ := Delivers.madeReference
    exact hdelivered hmade
  | makePointer found form_eq =>
    obtain ⟨sent, hmade⟩ := Delivers.madePointer
    exact hdelivered hmade
  | record entry => exact hdelivered (.record entry)
  | addReferent new free isSite =>
    intro referent hmem hname
    rcases List.mem_append.mp hmem with hmem | hmem
    · exact hcharts referent hmem hname
    · -- Nothing is attached yet under the name, so that all earlier notices have come to nothing.
      rw [List.mem_singleton] at hmem
      subst hmem hname
      refine (Roster.eq_empty_of_contains fun serial => ?_).symm
      obtain ⟨-, hlisted⟩ := RosterCell.run_followAll true hfollows Roster.contains_empty_iff
      rw [← Bool.not_eq_true]
      exact mt (hlisted serial).mp (h.toWellFormed.notMem_attachedTo new serial)
  | removeReferent live count_eq =>
    exact fun referent hmem => hcharts referent (List.mem_of_mem_filter hmem)
  | updateReferent unobtrusive =>
    intro referent hmem hname
    obtain ⟨old, hold, rfl⟩ := List.mem_map.mp hmem
    split at hname
    · rw [if_pos ‹_›, unobtrusive.roster_eq]
      exact hcharts old hold ((unobtrusive.name_eq old).symm.trans hname)
    · rw [if_neg ‹_›]
      exact hcharts old hold hname

/-- Whatever happens to a referent in the course of some acts is put down in its roster. -/
theorem Consistent.charts (h : before.Consistent config) (hcourse : Course config before after)
    (hlists : config.listsHolders = true)
    (hfollows : Ledger.empty.Follows (past ++ before.heard name) (before.ledger name))
    (hcharts : before.Charts name (past ++ before.heard name)) :
    after.Charts name (past ++ after.heard name) := by
  induction hcourse with
  | refl => exact hcharts
  | tail hcourse hact ih =>
    obtain ⟨sent, hheard, hsent⟩ :=
      h.informs hcourse (Bool.and_eq_true_iff.mp hlists).1 name
    refine hact.charts (h.course hcourse) hlists ?_ ih
    rw [hheard, ← List.append_assoc]
    exact hfollows.append hsent

end Store

namespace Session

variable {session : Session} {steps : List Step}

/-- On a trail every referent has the roster that the notices make which it has heard. -/
theorem Trail.charts (h : Trail config steps session) (hlists : config.listsHolders = true)
    (name : String) : session.store.Charts name (Step.heard steps name) := by
  have htracking : config.build.tracking = true := (Bool.and_eq_true_iff.mp hlists).1
  induction h with
  | start => exact fun _ hmem => absurd hmem List.not_mem_nil
  | next trail sound course events_eq ih =>
    rename_i steps session after shown
    have hpast : Step.heard steps name ++ session.clearEvents.store.heard name =
        Step.heard steps name := List.append_nil _
    have hnext := trail.sound.clearEvents.consistent.charts course hlists
      (hpast.symm ▸ trail.follows htracking name) (hpast.symm ▸ ih)
    rw [Step.heard, List.flatMap_append, List.filterMap_append, List.flatMap_singleton, events_eq]
    exact hnext

end Session

end CountedHandles
