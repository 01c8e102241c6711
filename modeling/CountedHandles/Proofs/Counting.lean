import CountedHandles.Proofs.Runs

/-!
# Exact counts

The count of a referent is never off: wherever a program gets that leaves calls to handles, it is
the number of handles that hold the referent. Those are handles that the program keeps, under names,
in sets or as links, since operations leave no other handles behind.
-/

namespace CountedHandles

namespace Store

variable {store : Store}

/-- The handles that exist are those with the serial numbers of handles that exist. -/
theorem filterMap_handle?_serials (hnodup : store.serials.Nodup) :
    store.serials.filterMap store.handle? = store.handles := by
  rw [serials, List.filterMap_map]
  have hfound : ∀ handle ∈ store.handles, (store.handle? ∘ Handle.serial) handle = some handle :=
    fun handle hmem => handle?_of_mem hnodup hmem
  rw [List.filterMap_congr hfound]
  exact List.filterMap_some

end Store

namespace Session

variable {config : Config} {session : Session} {address : Address}

/-- The handles that are kept anywhere and hold an address. -/
def keptHolders (session : Session) (address : Address) : List Handle :=
  (session.kept.filterMap session.store.handle?).filter fun handle => handle.address == address

/-- In a sound session every handle that holds an address is kept somewhere. -/
theorem Holding.keptHolders_perm (h : session.Sound config) :
    (session.keptHolders address).Perm (session.store.holders address) := by
  have hperm := (h.kept_perm.filterMap session.store.handle?).filter
    fun handle => handle.address == address
  rwa [Store.filterMap_handle?_serials h.consistent.nodup_serials] at hperm

end Session

namespace Program

/-- Wherever a program gets that leaves calls to handles, every handle that exists is kept in
exactly one place, and every referent counts exactly the handles that hold it. -/
theorem count_eq_length_keptHolders {program : Program} {steps : List Step} {session : Session}
    (hcalls : program.LeavesCalls) (hbody : program.body = (steps, .ok session)) :
    session.kept.Nodup ∧ session.kept.Perm session.store.serials ∧
      ∀ referent ∈ session.store.referents,
        referent.count = (session.keptHolders referent.address).length ∧
          referent.count = (session.store.holders referent.address).length := by
  have hsound := (reached_of_body hcalls hbody).sound
  refine ⟨hsound.nodup_kept, hsound.kept_perm, fun referent hmem => ?_⟩
  have hcount := (hsound.consistent.reflects referent hmem).count_eq
  exact ⟨hcount.trans hsound.keptHolders_perm.length_eq.symm, hcount⟩

/-- A program that copies a packed pointer to a referent, attaches the copy to the referent itself
and fails to make a reference of a pointer to nothing. -/
def countingExample : Program where
  config := ⟨⟨true, true⟩, .ordinary, .off⟩
  commands :=
    [.onReferent (.create "a" 1 none), .onHandle (.hold .pointer "p" .packed "a"),
      .onHandle (.copy "q" "p"), .onReferent (.attach "a" "q"), .onHandle (.null "z" .raw),
      .onHandle (.toReference "y" "z")]

/-- After that program the referent counts the pointer and its own link. -/
theorem count_countingExample :
    countingExample.body = (countingExample.body.1, .ok countingExample.final) ∧
      countingExample.body.1.map Step.outcome = [.answered .nothing, .answered .nothing,
        .answered .nothing, .answered .nothing, .answered .nothing, .panicked .releasedNull] ∧
      countingExample.final.store.referents.map Referent.count = [2] ∧
      ∀ referent ∈ countingExample.final.store.referents,
        referent.count = (countingExample.final.keptHolders referent.address).length ∧
          referent.count = (countingExample.final.store.holders referent.address).length := by
  have hcalls : countingExample.LeavesCalls := by
    simp [LeavesCalls, countingExample, Command.isCall]
  have hbody : countingExample.body = (countingExample.body.1, .ok countingExample.final) := rfl
  exact ⟨hbody, rfl, rfl, (count_eq_length_keptHolders hcalls hbody).2.2⟩

end Program

end CountedHandles
