import CountedHandles.Proofs.Course
import CountedHandles.Proofs.Performing
import CountedHandles.Referent.Destroy

/-!
# Destroyed referents

A referent that is destroyed releases its links and is checked before or after that. The check finds
a violation exactly if some handle holds the referent at that moment; otherwise the referent is gone
afterwards and the store is as consistent as before.
-/

namespace CountedHandles

open Operation

variable {config : Config} {store : Store} {referent : Referent} {name : String} {s : Serial}
  {serials : List Serial} {address : Address}

namespace Store

/-! ## Links that are released -/

/-- A store without several handles, of which their referents have been told. -/
def releasedAll (config : Config) (store : Store) (serials : List Serial) : Store :=
  serials.foldl (released config) store

@[simp] theorem releasedAll_nil : store.releasedAll config [] = store := rfl

@[simp] theorem releasedAll_cons :
    store.releasedAll config (s :: serials) =
      (store.released config s).releasedAll config serials := rfl

/-- Handles are released by a course of releases. -/
theorem Course.releasedAll : Course config store (store.releasedAll config serials) := by
  induction serials generalizing store with
  | nil => exact .refl
  | cons serial rest ih => exact .head (.release serial) ih

/-- A released handle holds nothing, and all others hold what they held before. -/
theorem holds_released : (store.released config s).Holds a address ↔
    store.Holds a address ∧ a ≠ s := by
  rw [released, holds_tell, holds_removeHandle]

/-- Released handles hold nothing, and all others hold what they held before. -/
theorem holds_releasedAll : (store.releasedAll config serials).Holds s address ↔
    store.Holds s address ∧ s ∉ serials := by
  induction serials generalizing store with
  | nil => simp
  | cons serial rest ih =>
    rw [releasedAll_cons, ih, holds_released, List.mem_cons, not_or, and_assoc]

/-- Referents stay where they are when handles are released. -/
theorem exists_mem_releasedAll (hmem : referent ∈ store.referents) :
    ∃ after ∈ (store.releasedAll config serials).referents,
      after.name = referent.name ∧ after.address = referent.address ∧
        after.links = referent.links := by
  induction serials generalizing store referent with
  | nil => exact ⟨referent, hmem, rfl, rfl, rfl⟩
  | cons serial rest ih =>
    have hreleased := List.mem_map_of_mem (f := fun referent : Referent =>
      if store.target? serial = some referent.name then
        referent.receiveAll config [.notice (.unregister serial), .decrement] else referent) hmem
    rw [← referents_removeHandle, ← referents_tell, ← released] at hreleased
    obtain ⟨after, hafter, hname, haddress, hlinks⟩ := ih hreleased
    refine ⟨after, hafter, hname.trans ?_, haddress.trans ?_, hlinks.trans ?_⟩
    · split <;> simp
    · split <;> simp
    · split <;> simp

/-! ## The check -/

/-- What there is to report if a referent goes away. -/
def violationOf? (store : Store) (name : String) : Option Violation :=
  (store.referent? name).bind Referent.violation?

/-- There is nothing to report exactly when no handle holds the referent. -/
theorem violationOf?_eq_none_iff (h : store.Consistent config) (hmem : referent ∈ store.referents) :
    store.violationOf? referent.name = none ↔ ∀ s, ¬ store.Holds s referent.address := by
  rw [violationOf?, h.referent?_of_mem hmem, Option.bind_some, ← length_holders_eq_zero_iff,
    ← (h.reflects referent hmem).count_eq]
  simp [Referent.violation?]

/-- The store in which a referent that is destroyed is checked. -/
def checkpoint (config : Config) (store : Store) (referent : Referent) : Store :=
  if config.kind.checksFirst then store else store.releasedAll config referent.links

/-- A store from which a referent has gone with its links. -/
def destroyed (config : Config) (store : Store) (referent : Referent) : Store :=
  (store.releasedAll config referent.links).removeReferent referent.name

/-- A handle holds something at the checkpoint if it held it before and is no link that is gone. -/
theorem holds_checkpoint : (store.checkpoint config referent).Holds s address ↔
    store.Holds s address ∧ (config.kind.checksFirst = false → s ∉ referent.links) := by
  unfold checkpoint
  split
  · rename_i hfirst
    simp [hfirst]
  · rename_i hfirst
    simp [holds_releasedAll, hfirst]

/-- The checkpoint lies on the course of a destruction. -/
theorem Course.checkpoint : Course config store (store.checkpoint config referent) := by
  unfold Store.checkpoint
  split
  · exact .refl
  · exact Course.releasedAll

/-- At the checkpoint there is nothing to report exactly if no handle holds the referent except
links that are gone by then. -/
theorem violationOf?_checkpoint_eq_none_iff (h : store.Consistent config)
    (hmem : referent ∈ store.referents) :
    (store.checkpoint config referent).violationOf? referent.name = none ↔
      ∀ s, store.Holds s referent.address →
        config.kind.checksFirst = false ∧ s ∈ referent.links := by
  have hlive : ∃ after ∈ (store.checkpoint config referent).referents,
      after.name = referent.name ∧ after.address = referent.address := by
    unfold checkpoint
    split
    · exact ⟨referent, hmem, rfl, rfl⟩
    · obtain ⟨after, hafter, hname, haddress, -⟩ := exists_mem_releasedAll hmem
      exact ⟨after, hafter, hname, haddress⟩
  obtain ⟨after, hafter, hname, haddress⟩ := hlive
  rw [← hname, violationOf?_eq_none_iff (h.course Course.checkpoint) hafter, haddress]
  refine forall_congr' fun s => ?_
  rw [holds_checkpoint]
  cases config.kind.checksFirst <;> simp

/-- A referent that passes its check is held by no handle once its links have been released, so it
can go. -/
theorem Act.destroyed (h : store.Consistent config) (hmem : referent ∈ store.referents)
    (hchecked : (store.checkpoint config referent).violationOf? referent.name = none) :
    Act config (store.releasedAll config referent.links) (store.destroyed config referent) := by
  obtain ⟨after, hafter, hname, haddress, -⟩ :
      ∃ after ∈ (store.releasedAll config referent.links).referents,
        after.name = referent.name ∧ after.address = referent.address ∧
          after.links = referent.links := exists_mem_releasedAll hmem
  rw [violationOf?_checkpoint_eq_none_iff h hmem] at hchecked
  have hcount : after.count = 0 := by
    rw [((h.course Course.releasedAll).reflects after hafter).count_eq,
      length_holders_eq_zero_iff]
    intro s hholds
    rw [holds_releasedAll, haddress] at hholds
    exact hholds.2 (hchecked s hholds.1).2
  rw [Store.destroyed, ← hname]
  exact .removeReferent hafter hcount

/-- A referent that passes its check goes by a course of acts. -/
theorem Course.destroyed (h : store.Consistent config) (hmem : referent ∈ store.referents)
    (hchecked : (store.checkpoint config referent).violationOf? referent.name = none) :
    Course config store (store.destroyed config referent) :=
  .tail Course.releasedAll (.destroyed h hmem hchecked)

end Store

namespace Handle

/-- Releasing several handles succeeds on a consistent store. -/
theorem run_releaseAll (h : store.Consistent config) (serials : List Serial) :
    releaseAll config serials store = .ok () (store.releasedAll config serials) := by
  induction serials generalizing store with
  | nil => rfl
  | cons serial rest ih =>
    simp only [releaseAll, run_ensuring_of_ok (run_release h serial)]
    exact ih (h.released serial)

end Handle

namespace Referent

/-- A check reports a violation if there is one, and changes nothing. -/
theorem run_checkLifetime (name : String) (store : Store) :
    checkLifetime name store =
      match store.violationOf? name with
      | none => .ok () store
      | some violation => .error (.violation violation) store := by
  unfold checkLifetime
  simp only [run_bind, run_get]
  rw [← Store.violationOf?]
  cases store.violationOf? name <;> rfl

/-- A referent that is destroyed is gone unless its check ends the run. -/
theorem run_destroy (h : store.Consistent config) :
    destroy config referent store =
      match (store.checkpoint config referent).violationOf? referent.name with
      | none => .ok () (store.destroyed config referent)
      | some violation => .error (.violation violation) (store.checkpoint config referent) := by
  have hrelease := Handle.run_releaseAll h referent.links
  unfold destroy Store.checkpoint
  cases hfirst : config.kind.checksFirst with
  | false =>
    have hcheck := run_checkLifetime referent.name (store.releasedAll config referent.links)
    simp only [Bool.false_eq_true, if_false, ensuring, hrelease, hcheck]
    cases (store.releasedAll config referent.links).violationOf? referent.name <;> rfl
  | true =>
    have hcheck := run_checkLifetime referent.name store
    simp only [if_true, ensuring, hcheck]
    cases store.violationOf? referent.name with
    | none =>
      simp only [hrelease]
      rfl
    | some violation => rfl

end Referent

end CountedHandles
