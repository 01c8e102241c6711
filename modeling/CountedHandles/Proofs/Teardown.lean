import CountedHandles.Proofs.Lifetimes
import CountedHandles.Proofs.Protocol
import Mathlib.Data.List.Sort
import Mathlib.Order.Extension.Linear

/-!
# Tearing down

When no handles are left but links, the referents of a session can be destroyed one after another.
This succeeds in exactly those orders in which every owner goes before whatever its links hold, and
there is such an order exactly if no chain of links leads back to where it starts.
-/

namespace CountedHandles

/-! ## Orders -/

/-- Everything that binds comes before what it binds. -/
def Orderly (binds : String → String → Prop) (order : List String) : Prop :=
  ∀ owner ∈ order, ∀ held ∈ order, binds owner held → order.idxOf owner < order.idxOf held

instance {binds : String → String → Prop} [DecidableRel binds] {order : List String} :
    Decidable (Orderly binds order) :=
  inferInstanceAs (Decidable (∀ owner ∈ order, ∀ held ∈ order, binds owner held →
    order.idxOf owner < order.idxOf held))

section Orders

variable {binds binds' : String → String → Prop} {order names rest : List String} {name : String}

/-- An order only depends on what binds what in it. -/
theorem orderly_congr (h : ∀ owner ∈ order, ∀ held ∈ order, binds owner held ↔ binds' owner held) :
    Orderly binds order ↔ Orderly binds' order :=
  forall_congr' fun owner => forall_congr' fun howner => forall_congr' fun held =>
    forall_congr' fun hheld => imp_congr_left (h owner howner held hheld)

/-- What comes first in an order is bound by nothing in it, and the rest is in order. -/
theorem orderly_cons (hfresh : name ∉ rest) :
    Orderly binds (name :: rest) ↔
      (∀ owner ∈ name :: rest, ¬ binds owner name) ∧ Orderly binds rest := by
  have hlater : ∀ other ∈ rest, (name :: rest).idxOf other = rest.idxOf other + 1 := by
    intro other hother
    have hne : name ≠ other := fun heq => hfresh (heq ▸ hother)
    exact List.idxOf_cons_ne rest hne
  constructor
  · intro horderly
    refine ⟨fun owner howner hbinds => ?_, fun owner howner held hheld hbinds => ?_⟩
    · have hbefore := horderly owner howner name List.mem_cons_self hbinds
      rw [List.idxOf_cons_self] at hbefore
      exact Nat.not_lt_zero _ hbefore
    · have hbefore := horderly owner (List.mem_cons_of_mem _ howner) held
        (List.mem_cons_of_mem _ hheld) hbinds
      rw [hlater owner howner, hlater held hheld] at hbefore
      exact Nat.lt_of_succ_lt_succ hbefore
  · rintro ⟨hfirst, hrest⟩ owner howner held hheld hbinds
    rcases List.mem_cons.mp hheld with rfl | hheld
    · exact absurd hbinds (hfirst owner howner)
    · rw [hlater held hheld]
      rcases List.mem_cons.mp howner with rfl | howner
      · rw [List.idxOf_cons_self]
        exact Nat.succ_pos _
      · rw [hlater owner howner]
        exact Nat.succ_lt_succ (hrest owner howner held hheld hbinds)

/-- A chain of bindings leads onward in an order. -/
theorem Orderly.idxOf_lt {first last : String} (h : Orderly binds order)
    (hmem : ∀ owner held, binds owner held → owner ∈ order ∧ held ∈ order)
    (hchain : Relation.TransGen binds first last) : order.idxOf first < order.idxOf last := by
  have hstep : ∀ owner held, binds owner held → order.idxOf owner < order.idxOf held :=
    fun owner held hbinds =>
      h owner (hmem owner held hbinds).1 held (hmem owner held hbinds).2 hbinds
  induction hchain with
  | single hbinds => exact hstep _ _ hbinds
  | tail _ hbinds ih => exact ih.trans (hstep _ _ hbinds)

/-- If no chain of bindings leads back to where it starts, being led to is a partial order. -/
theorem isPartialOrder_of_acyclic (h : ∀ name, ¬ Relation.TransGen binds name name) :
    IsPartialOrder String (Relation.ReflTransGen binds) where
  refl _ := .refl
  trans _ _ _ := .trans
  antisymm first last honward hback := by
    rcases Relation.reflTransGen_iff_eq_or_transGen.mp honward with heq | hchain
    · exact heq.symm
    · exact absurd (hchain.trans_left hback) (h first)

/-- Names can be put in order exactly if no chain of bindings leads back to where it starts. -/
theorem exists_orderly_iff (hmem : ∀ owner held, binds owner held → owner ∈ names ∧ held ∈ names) :
    (∃ order, order.Perm names ∧ Orderly binds order) ↔
      ∀ name, ¬ Relation.TransGen binds name name := by
  constructor
  · rintro ⟨order, hperm, horderly⟩ name hcycle
    refine absurd (horderly.idxOf_lt (fun owner held hbinds => ?_) hcycle) (Nat.lt_irrefl _)
    exact (hmem owner held hbinds).imp hperm.mem_iff.mpr hperm.mem_iff.mpr
  · intro hacyclic
    -- A linear order that extends the chains sorts the names.
    have := isPartialOrder_of_acyclic hacyclic
    obtain ⟨precedes, hlinear, hextends⟩ := extend_partialOrder (Relation.ReflTransGen binds)
    classical
    have hsorted := List.pairwise_insertionSort precedes names
    refine ⟨names.insertionSort precedes, List.perm_insertionSort precedes names, ?_⟩
    intro owner howner held hheld hbinds
    have hprecedes : precedes owner held := hextends _ _ (.single hbinds)
    by_contra hlate
    have hne : owner ≠ held := by
      rintro rfl
      exact hacyclic owner (.single hbinds)
    have hindex : (names.insertionSort precedes).idxOf held ≠
        (names.insertionSort precedes).idxOf owner := fun heq =>
      hne ((List.idxOf_inj howner).mp heq.symm)
    have hback := List.pairwise_iff_getElem.mp hsorted _ _ (List.idxOf_lt_length_of_mem hheld)
      (List.idxOf_lt_length_of_mem howner) (by omega)
    rw [List.getElem_idxOf, List.getElem_idxOf] at hback
    exact hne (antisymm hprecedes hback)

end Orders

namespace Store

variable {config : Config} {store : Store} {referent : Referent} {serials : List Serial}
  {s : Serial} {owner held name : String}

/-- A referent owns a link that holds another one. Where referents are checked before their links
are dropped, a link to the owner itself counts as well. -/
def Binds (config : Config) (store : Store) (owner held : String) : Prop :=
  (config.kind.checksFirst = false → owner ≠ held) ∧
    ∃ serial ∈ store.linksOf owner, store.target? serial = some held

instance : DecidableRel (store.Binds config) := fun owner held =>
  inferInstanceAs (Decidable ((config.kind.checksFirst = false → owner ≠ held) ∧
    ∃ serial ∈ store.linksOf owner, store.target? serial = some held))

/-- Links are owned by referents that exist. -/
theorem mem_names_of_mem_linksOf (h : s ∈ store.linksOf owner) : owner ∈ store.names := by
  unfold linksOf at h
  cases hfound : store.referent? owner with
  | none => simp [hfound] at h
  | some referent =>
    have hname : referent.name = owner := by simpa using List.find?_some hfound
    exact hname ▸ List.mem_map_of_mem (List.mem_of_find?_eq_some hfound)

/-- Only referents that exist bind or are bound. -/
theorem Binds.mem_names (hbinds : store.Binds config owner held) :
    owner ∈ store.names ∧ held ∈ store.names := by
  obtain ⟨-, serial, hlink, htarget⟩ := hbinds
  obtain ⟨referent, hfound, rfl⟩ := Option.map_eq_some_iff.mp htarget
  obtain ⟨handle, -, hat⟩ := Option.bind_eq_some_iff.mp hfound
  obtain ⟨address, -, hsite⟩ := Option.bind_eq_some_iff.mp hat
  exact ⟨mem_names_of_mem_linksOf hlink, List.mem_map_of_mem (List.mem_of_find?_eq_some hsite)⟩

/-- The links of a referent that exists are found under its name. -/
theorem WellFormed.linksOf_name (h : store.WellFormed) (hmem : referent ∈ store.referents) :
    store.linksOf referent.name = referent.links := by
  rw [linksOf, h.referent?_of_mem hmem]
  rfl

/-- Handles that are released have no target, and all others keep theirs. -/
theorem target?_releasedAll :
    (store.releasedAll config serials).target? s =
      if s ∈ serials then none else store.target? s := by
  induction serials generalizing store with
  | nil => simp
  | cons serial rest ih =>
    rw [releasedAll_cons, ih, released, target?_tell, target?_removeHandle]
    by_cases hrest : s ∈ rest
    · simp [hrest]
    · simp [hrest]

end Store

namespace Session

variable {config : Config} {session : Session} {referent : Referent} {s : Serial}
  {owner held name : String} {order : List String}

namespace Holding

/-- Every link of a sound session is owned by one referent only. -/
theorem notMem_links (h : session.Sound config) (hmem : referent ∈ session.store.referents)
    (hne : owner ≠ referent.name) (hlink : s ∈ session.store.linksOf owner) :
    s ∉ referent.links := by
  have hperm := Store.linked_perm h.consistent.nodup_names hmem
  have hkept : (session.placed ++ session.store.linked).Nodup := h.nodup_kept
  have hnodup := hperm.nodup_iff.mpr (List.nodup_append.mp hkept).2.1
  intro howned
  rw [← Store.linksOf_removeReferent_of_ne hne] at hlink
  have hrest : s ∈ (session.store.removeReferent referent.name).linked := by
    unfold Store.linksOf at hlink
    cases hfound : (session.store.removeReferent referent.name).referent? owner with
    | none => simp [hfound] at hlink
    | some other =>
      rw [hfound] at hlink
      exact List.mem_flatMap.mpr ⟨other, List.mem_of_find?_eq_some hfound, hlink⟩
  exact (List.nodup_append.mp hnodup).2.2 s howned s hrest rfl

/-- If no handles are left but links, some handle outlives a referent exactly if the referent is
bound. -/
theorem outlives_iff_binds (h : session.Sound config) (hplaced : session.placed = [])
    (hmem : referent ∈ session.store.referents) :
    session.Outlives config referent ↔
      ∃ owner ∈ session.store.names, session.store.Binds config owner referent.name := by
  have hw := h.consistent.toWellFormed
  constructor
  · rintro ⟨handle, hhandle, haddress, hlink⟩
    have hkept : handle.serial ∈ session.kept :=
      h.kept_perm.mem_iff.mpr (List.mem_map_of_mem hhandle)
    rw [kept, hplaced, List.nil_append] at hkept
    obtain ⟨owner, howner, howned⟩ := List.mem_flatMap.mp hkept
    refine ⟨owner.name, List.mem_map_of_mem howner, fun hlate hsame => ?_, handle.serial, ?_, ?_⟩
    · rw [List.inj_on_of_nodup_map hw.nodup_names howner hmem hsame] at howned
      exact hlink hlate howned
    · rwa [hw.linksOf_name howner]
    · exact hw.target?_eq_some_iff.mpr ⟨referent, hmem, rfl, handle, hhandle, rfl, haddress⟩
  · rintro ⟨owner, -, hdiffer, serial, hlink, htarget⟩
    obtain ⟨other, hother, hname, handle, hhandle, rfl, haddress⟩ :=
      hw.target?_eq_some_iff.mp htarget
    rw [List.inj_on_of_nodup_map hw.nodup_names hother hmem hname] at haddress
    exact ⟨handle, hhandle, haddress, fun hlate => h.notMem_links hmem (hdiffer hlate) hlink⟩

/-- A referent that goes away leaves what binds what among all others. -/
theorem binds_destroyed (h : session.Sound config) (hmem : referent ∈ session.store.referents)
    (hchecked : (session.store.checkpoint config referent).violationOf? referent.name = none)
    (howner : owner ≠ referent.name) (hheld : held ≠ referent.name) :
    (session.store.destroyed config referent).Binds config owner held ↔
      session.store.Binds config owner held := by
  have hreleased := h.releasedLinks hmem
  have hlinks : (session.store.destroyed config referent).linksOf owner =
      session.store.linksOf owner :=
    (Store.linksOf_removeReferent_of_ne howner).trans (hreleased.linksOf_eq owner)
  have htarget : ∀ serial ∈ session.store.linksOf owner,
      (session.store.destroyed config referent).target? serial = some held ↔
        session.store.target? serial = some held := by
    intro serial hlink
    have hbetween : (session.store.releasedAll config referent.links).target? serial =
        session.store.target? serial := by
      rw [Store.target?_releasedAll, if_neg (h.notMem_links hmem howner hlink)]
    rw [← hbetween, (h.destroyed hmem hchecked).consistent.target?_eq_some_iff,
      (h.consistent.course hreleased.course).target?_eq_some_iff]
    refine exists_congr fun other => ?_
    rw [Store.destroyed, Store.removeReferent, List.mem_filter]
    constructor
    · rintro ⟨⟨hother, -⟩, hname, hholds⟩
      exact ⟨hother, hname, hholds⟩
    · rintro ⟨hother, rfl, hholds⟩
      exact ⟨⟨hother, by simpa using hheld⟩, rfl, hholds⟩
  unfold Store.Binds
  rw [hlinks]
  exact and_congr_right fun _ => exists_congr fun serial => and_congr_right (htarget serial)

/-- The names of the referents that are left when one goes away. -/
theorem names_destroyed (h : session.Sound config) (hmem : referent ∈ session.store.referents) :
    (session.store.destroyed config referent).names =
      session.store.names.filter fun name => name != referent.name := by
  rw [← (h.releasedLinks hmem).names_eq, Store.names, Store.names, Store.destroyed,
    Store.removeReferent, List.filter_map]
  rfl

/-- If the names of the referents are in some order, those that are left when the first one goes
away are in the order of the rest. -/
theorem perm_names_destroyed (h : session.Sound config) (hmem : referent ∈ session.store.referents)
    (hperm : (referent.name :: order).Perm session.store.names) :
    order.Perm (session.store.destroyed config referent).names := by
  have hfresh := (List.nodup_cons.mp (hperm.nodup_iff.mpr h.consistent.nodup_names)).1
  have hkeep : order.filter (fun name => name != referent.name) = order :=
    List.filter_eq_self.mpr fun other hother => by
      have hne : other ≠ referent.name := fun heq => hfresh (heq ▸ hother)
      simpa using hne
  have hfiltered := hperm.filter fun name => name != referent.name
  rwa [List.filter_cons_of_neg (by simp), hkeep, ← h.names_destroyed hmem] at hfiltered

/-- If no handles are left but links, no handle is kept under a name or in a set. -/
theorem placed_eq_nil (h : session.Sound config)
    (hlinks : ∀ serial ∈ session.store.serials, serial ∈ session.store.linked) :
    session.placed = [] := by
  have hkept : (session.placed ++ session.store.linked).Nodup := h.nodup_kept
  rw [List.eq_nil_iff_forall_not_mem]
  intro serial hplaced
  have hexists := h.kept_perm.mem_iff.mp (List.mem_append_left session.store.linked hplaced)
  exact (List.nodup_append.mp hkept).2.2 serial hplaced serial (hlinks serial hexists) rfl

/-- A session without referents in which no handles are left but links has no handles. -/
theorem handles_eq_nil (h : session.Sound config) (hplaced : session.placed = [])
    (hnames : session.store.names = []) : session.store.handles = [] := by
  have hkept : session.kept = [] := by
    rw [kept, hplaced, Store.linked, List.map_eq_nil_iff.mp hnames]
    rfl
  have hperm := h.kept_perm
  rw [hkept] at hperm
  exact List.map_eq_nil_iff.mp (List.nil_perm.mp hperm)

end Holding

/-- The destruction of referents one after the other. -/
def demolition (config : Config) (order : List String) : List (Turn Answer) :=
  order.map fun name => Command.run config (.onReferent (.destroy name))

/-- Referents are destroyed in some order. Either all of them go, which happens if the order puts
owners first, or a violation ends the run. -/
theorem Holding.steps_demolition (h : session.Sound config) (hplaced : session.placed = [])
    (hperm : order.Perm session.store.names) :
    match session.steps config (demolition config order) with
    | (shown, .ok after) => Orderly (session.store.Binds config) order ∧
        after.store.handles = [] ∧ after.store.referents = [] ∧
          ∀ step ∈ shown, step.outcome = .answered .nothing
    | (_, .error abortion) => ¬ Orderly (session.store.Binds config) order ∧
        ∃ violation events, abortion = .violation violation config.channel events := by
  induction order generalizing session with
  | nil =>
    have hnames := List.nil_perm.mp hperm
    exact ⟨by simp [Orderly], h.handles_eq_nil hplaced hnames, List.map_eq_nil_iff.mp hnames,
      by simp⟩
  | cons name rest ih =>
    obtain ⟨referent, hmem, rfl⟩ := List.mem_map.mp (hperm.subset List.mem_cons_self)
    have hfresh := (List.nodup_cons.mp (hperm.nodup_iff.mpr h.consistent.nodup_names)).1
    have hfirst : (∀ owner ∈ referent.name :: rest,
        ¬ session.store.Binds config owner referent.name) ↔ ¬ session.Outlives config referent := by
      rw [h.outlives_iff_binds hplaced hmem]
      simp [← hperm.mem_iff]
    rw [orderly_cons hfresh, hfirst]
    have hstep := h.step_destroy hmem
    have hchecked := h.clearEvents.violationOf?_eq_none_iff hmem
    cases hviolation : (session.clearEvents.store.checkpoint config referent).violationOf?
        referent.name with
    | some violation =>
      rw [hviolation] at hstep hchecked
      have houtlives : session.Outlives config referent := by
        by_contra hnone
        cases hchecked.mpr hnone
      rw [demolition, List.map_cons, steps_cons_of_error hstep]
      exact ⟨fun hboth => hboth.1 houtlives, violation, _, rfl⟩
    | none =>
      have hnone : ¬ session.Outlives config referent := hchecked.mp hviolation
      have hafter := h.clearEvents.destroyed hmem hviolation
      have horderly : Orderly ((session.clearEvents.store.destroyed config referent).Binds config)
          rest ↔ Orderly (session.store.Binds config) rest := by
        refine orderly_congr fun owner howner held hheld => ?_
        exact h.clearEvents.binds_destroyed hmem hviolation (fun heq => hfresh (heq ▸ howner))
          fun heq => hfresh (heq ▸ hheld)
      have hrest := ih hafter hplaced (h.clearEvents.perm_names_destroyed hmem hperm)
      rw [hviolation] at hstep
      rw [demolition, List.map_cons, steps_cons_of_ok hstep]
      rw [demolition, horderly] at hrest
      split at hrest
      · rename_i shown final hsteps
        obtain ⟨hfollows, hhandles, hreferents, hanswered⟩ := hrest
        rw [hsteps]
        exact ⟨⟨hnone, hfollows⟩, hhandles, hreferents, List.forall_mem_cons.mpr ⟨rfl, hanswered⟩⟩
      · rename_i shown abortion hsteps
        rw [hsteps]
        exact ⟨fun hboth => hrest.1 hboth.2, hrest.2⟩

end Session

namespace Program

/-- Wherever a program gets that leaves calls to handles, if no handles are left but links: the
referents can all be destroyed in an order exactly if every owner goes before what its links hold,
and otherwise a violation ends the run; when all of them are gone, no handle is left and no
destruction has been refused or has panicked. There is such an order exactly if no chain of links
leads back to where it starts. -/
theorem demolition_completes_iff {program : Program} {steps : List Step} {session : Session}
    (hcalls : program.LeavesCalls) (hbody : program.body = (steps, .ok session))
    (hlinks : ∀ serial ∈ session.store.serials, serial ∈ session.store.linked) :
    (∀ order : List String, order.Perm session.store.names →
      ((∃ shown after, session.steps program.config (Session.demolition program.config order) =
          (shown, .ok after)) ↔ Orderly (session.store.Binds program.config) order) ∧
      (∀ shown abortion,
        session.steps program.config (Session.demolition program.config order) =
          (shown, .error abortion) →
        ∃ violation events, abortion = .violation violation program.config.channel events) ∧
      (∀ shown after, session.steps program.config (Session.demolition program.config order) =
          (shown, .ok after) →
        after.store.handles = [] ∧ after.store.referents = [] ∧
          ∀ step ∈ shown, step.outcome = .answered .nothing)) ∧
    ((∃ order : List String, order.Perm session.store.names ∧ ∃ shown after,
        session.steps program.config (Session.demolition program.config order) =
          (shown, .ok after)) ↔
      ∀ name, ¬ Relation.TransGen (session.store.Binds program.config) name name) := by
  have hsound := (reached_of_body hcalls hbody).sound
  have hplaced := hsound.placed_eq_nil hlinks
  have hcompletes : ∀ order : List String, order.Perm session.store.names →
      ((∃ shown after, session.steps program.config (Session.demolition program.config order) =
        (shown, .ok after)) ↔ Orderly (session.store.Binds program.config) order) := by
    intro order hperm
    have hruns := hsound.steps_demolition hplaced hperm
    split at hruns
    · rename_i shown after hsteps
      exact iff_of_true ⟨shown, after, hsteps⟩ hruns.1
    · rename_i shown abortion hsteps
      refine iff_of_false ?_ hruns.1
      rintro ⟨others, after, hcompleted⟩
      rw [hsteps] at hcompleted
      cases hcompleted
  refine ⟨fun order hperm => ⟨hcompletes order hperm, ?_, ?_⟩, ?_⟩
  · intro shown abortion hsteps
    have hruns := hsound.steps_demolition hplaced hperm
    rw [hsteps] at hruns
    exact hruns.2
  · intro shown after hsteps
    have hruns := hsound.steps_demolition hplaced hperm
    rw [hsteps] at hruns
    exact hruns.2
  · rw [← exists_orderly_iff fun owner held => Store.Binds.mem_names]
    exact exists_congr fun order => and_congr_right (hcompletes order)

/-- A program that leaves three referents with links: two from the first to the second, one of them
packed, one from the second to the third, one from the third to itself, and two that hold nothing.
-/
def teardownExample : Program where
  config := ⟨⟨true, true⟩, .ordinary, .off⟩
  commands :=
    [.onReferent (.create "a" 1 none), .onReferent (.create "b" 2 none),
      .onReferent (.create "c" 3 none), .onHandle (.hold .pointer "p" .raw "b"),
      .onHandle (.hold .reference "q" .packed "b"), .onHandle (.hold .pointer "r" .raw "c"),
      .onHandle (.copy "s" "r"), .onHandle (.null "t" .raw), .onHandle (.deleted "u" .packed),
      .onReferent (.attach "a" "p"), .onReferent (.attach "a" "q"), .onReferent (.attach "b" "r"),
      .onReferent (.attach "c" "s"), .onReferent (.attach "a" "t"), .onReferent (.attach "b" "u")]

/-- What that program leaves can be destroyed in the order of the links, and not if the third
referent goes before the second. -/
theorem demolition_teardownExample :
    teardownExample.body = (teardownExample.body.1, .ok teardownExample.final) ∧
      (∀ serial ∈ teardownExample.final.store.serials,
        serial ∈ teardownExample.final.store.linked) ∧
      (∃ shown after, teardownExample.final.steps teardownExample.config
        (Session.demolition teardownExample.config ["a", "b", "c"]) = (shown, .ok after)) ∧
      (¬ ∃ shown after, teardownExample.final.steps teardownExample.config
        (Session.demolition teardownExample.config ["a", "c", "b"]) = (shown, .ok after)) ∧
      ∀ name, ¬ Relation.TransGen (teardownExample.final.store.Binds teardownExample.config)
        name name := by
  have hcalls : teardownExample.LeavesCalls := by
    simp [LeavesCalls, teardownExample, Command.isCall]
  have hbody : teardownExample.body = (teardownExample.body.1, .ok teardownExample.final) := rfl
  have hlinks : ∀ serial ∈ teardownExample.final.store.serials,
      serial ∈ teardownExample.final.store.linked := by decide +kernel
  have hinOrder : ["a", "b", "c"].Perm teardownExample.final.store.names := by decide +kernel
  have houtOfOrder : ["a", "c", "b"].Perm teardownExample.final.store.names := by decide +kernel
  obtain ⟨hexact, hexists⟩ := demolition_completes_iff hcalls hbody hlinks
  have hcompleted := ((hexact _ hinOrder).1).mpr (by decide +kernel)
  refine ⟨hbody, hlinks, hcompleted, fun hcompletes => ?_, hexists.mp ⟨_, hinOrder, hcompleted⟩⟩
  exact absurd (((hexact _ houtOfOrder).1).mp hcompletes) (by decide +kernel)

end Program

end CountedHandles
