import CountedHandles.Proofs.Consistency

/-!
# What operations leave

An operation can succeed, or a panic can cut it short and unwind through the operations that enclose
it. This file states what holds of the store in both cases, and how that follows from the parts of
an operation, its clean-ups among them. Nothing is said of an operation that ends the run.
-/

namespace CountedHandles.Operation

/-- One property holds of what an operation succeeds with, another of what a panic leaves. -/
def Leaves (operation : Operation α) (store : Store) (done : α → Store → Prop)
    (cut : Store → Prop) : Prop :=
  match operation store with
  | .ok result after => done result after
  | .error (.panic _) after => cut after
  | .error _ _ => True

variable {operation : Operation α} {cleanup : Operation Unit} {store after : Store} {result : α}
  {done done' : α → Store → Prop} {cut cut' : Store → Prop}

/-- An operation whose result is known leaves what that says. -/
theorem leaves_of_run (hrun : operation store = .ok result after) (h : done result after) :
    operation.Leaves store done cut := by
  unfold Leaves
  rwa [hrun]

/-- What an operation leaves has every weaker property as well. -/
theorem Leaves.imp (h : operation.Leaves store done cut)
    (hdone : ∀ result after, done result after → done' result after)
    (hcut : ∀ after, cut after → cut' after) : operation.Leaves store done' cut' := by
  unfold Leaves at h ⊢
  split
  · rename_i result after hrun
    rw [hrun] at h
    exact hdone result after h
  · rename_i cause after hrun
    rw [hrun] at h
    exact hcut after h
  · trivial

/-- A sequence leaves what its second part does, unless a panic cuts the first part short. -/
theorem leaves_bind {next : α → Operation β} {done : β → Store → Prop}
    (h : operation.Leaves store (fun result after => (next result).Leaves after done cut) cut) :
    (operation >>= next).Leaves store done cut := by
  unfold Leaves at h ⊢
  rw [run_bind]
  cases hrun : operation store with
  | ok result after =>
    rw [hrun] at h
    exact h
  | error fault after =>
    rw [hrun] at h
    cases fault <;> exact h

theorem leaves_pure (h : done result store) : (pure result : Operation α).Leaves store done cut := h

theorem leaves_modify {done : Unit → Store → Prop} {change : Store → Store}
    (h : done () (change store)) : (modify change : Operation Unit).Leaves store done cut := h

theorem leaves_panic {cause : Panic} (h : cut store) :
    (panic cause : Operation α).Leaves store done cut := h

/-- What is done to a target is only done if there is one. -/
theorem leaves_onTarget {done : Unit → Store → Prop} {name? : Option String}
    {operation : String → Operation Unit} (hnone : name? = none → done () store)
    (hsome : ∀ name, name? = some name → (operation name).Leaves store done cut) :
    (onTarget name? operation).Leaves store done cut := by
  cases name? with
  | none => exact hnone rfl
  | some name => exact hsome name rfl

/-- A clean-up of a panic leaves what it leaves, unless it panics as well. -/
theorem leaves_unwind {cause : Panic}
    (h : cleanup.Leaves store (fun _ => cut) fun _ => True) :
    (unwind cause cleanup : Operation α).Leaves store done cut := by
  unfold Leaves at h ⊢
  unfold unwind
  cases hrun : cleanup store with
  | ok _ after =>
    rw [hrun] at h
    exact h
  | error fault after => cases fault <;> trivial

/-- An operation with a clean-up leaves what it leaves by itself, or what the clean-up makes of what
a panic left. -/
theorem leaves_recovering (h : operation.Leaves store done fun after =>
      cleanup.Leaves after (fun _ => cut) fun _ => True) :
    (recovering operation cleanup).Leaves store done cut := by
  unfold Leaves at h ⊢
  unfold recovering
  cases hrun : operation store with
  | ok result after =>
    rw [hrun] at h
    exact h
  | error fault after =>
    rw [hrun] at h
    cases fault with
    | panic cause => exact leaves_unwind h
    | violation violation => trivial
    | collapse => trivial

/-- An operation that is always cleaned up after leaves what the clean-up leaves. -/
theorem leaves_ensuring {operation : Operation Unit} {done : Unit → Store → Prop}
    (h : operation.Leaves store (fun _ after => cleanup.Leaves after done cut) fun after =>
      cleanup.Leaves after (fun _ => cut) fun _ => True) :
    (ensuring operation cleanup).Leaves store done cut := by
  unfold Leaves at h ⊢
  unfold ensuring
  cases hrun : operation store with
  | ok result after =>
    rw [hrun] at h
    exact h
  | error fault after =>
    rw [hrun] at h
    cases fault with
    | panic cause => exact leaves_unwind h
    | violation violation => trivial
    | collapse => trivial

end CountedHandles.Operation
