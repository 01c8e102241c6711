import CountedHandles.Fault
import CountedHandles.Store

/-!
# Operations

An operation changes a store and ends with a result or with a fault; what it changed before a fault
stays changed. A panic unwinds through the operations that enclose it, and each may still have to
clean up: a panic of a clean-up that runs while another panic unwinds collapses the run.
-/

namespace CountedHandles

/-- A change of a store that may be cut short by a fault. -/
abbrev Operation := EStateM Fault Store

namespace Operation

/-- Stops with a panic. -/
def panic (cause : Panic) : Operation α :=
  throw (.panic cause)

/-- Adds a call that a referent receives to the events, with the handles that exist by then. -/
def recordCall (call : Call) : Operation Unit :=
  modify fun store => store.addEvent (.call call store.handles)

/-- Adds a log record to the events. -/
def recordLog (record : LogRecord) : Operation Unit :=
  modify fun store => store.addEvent (.log record)

/-- The name of the referent that a handle holds. -/
def target? (serial : Serial) : Operation (Option String) :=
  return (← get).target? serial

/-- Runs an operation on a referent, if there is one. -/
def onTarget (name? : Option String) (operation : String → Operation Unit) : Operation Unit :=
  match name? with
  | none => pure ()
  | some name => operation name

/-- Adds a handle without telling any referent. -/
def addHandle (form : Form) (slot : Slot) : Operation Serial := do
  let store ← get
  set (store.addHandle form slot)
  return store.nextSerial

/-- Finishes a panic that unwinds through a clean-up. -/
def unwind (cause : Panic) (cleanup : Operation Unit) : Operation α := fun store =>
  match cleanup store with
  | .ok _ after => .error (.panic cause) after
  | .error (.panic _) after => .error .collapse after
  | .error fault after => .error fault after

/-- Cleans up only if an operation panics. -/
def recovering (operation : Operation α) (cleanup : Operation Unit) : Operation α := fun store =>
  match operation store with
  | .error (.panic cause) after => unwind cause cleanup after
  | result => result

/-- Cleans up after an operation, whether or not it panics. -/
def ensuring (operation : Operation Unit) (cleanup : Operation Unit) : Operation Unit :=
  fun store =>
    match operation store with
    | .ok _ after => cleanup after
    | .error (.panic cause) after => unwind cause cleanup after
    | .error fault after => .error fault after

/-- A sequence goes on only from a result. -/
theorem run_bind (operation : Operation α) (next : α → Operation β) (store : Store) :
    (operation >>= next) store =
      match operation store with
      | .ok result after => next result after
      | .error fault after => .error fault after := by
  cases h : operation store <;> simp only [bind, EStateM.bind, h]

/-- A sequence goes on from the result of its first part. -/
theorem run_bind_of_ok {operation : Operation α} {next : α → Operation β} {store after : Store}
    {result : α} (h : operation store = .ok result after) :
    (operation >>= next) store = next result after := by
  rw [run_bind, h]

/-- An operation that succeeds leaves nothing to recover from. -/
theorem run_recovering_of_ok {operation : Operation α} {cleanup : Operation Unit}
    {store after : Store} {result : α} (h : operation store = .ok result after) :
    recovering operation cleanup store = .ok result after := by
  simp only [recovering, h]

/-- After an operation that succeeds the clean-up just runs. -/
theorem run_ensuring_of_ok {operation cleanup : Operation Unit} {store after : Store}
    (h : operation store = .ok () after) : ensuring operation cleanup store = cleanup after := by
  simp only [ensuring, h]

@[simp] theorem run_pure (result : α) (store : Store) :
    (pure result : Operation α) store = .ok result store := rfl

@[simp] theorem run_get (store : Store) : (get : Operation Store) store = .ok store store := rfl

@[simp] theorem run_modify (change : Store → Store) (store : Store) :
    (modify change : Operation Unit) store = .ok () (change store) := rfl

@[simp] theorem run_panic (cause : Panic) (store : Store) :
    (panic cause : Operation α) store = .error (.panic cause) store := rfl

@[simp] theorem run_recordCall (call : Call) (store : Store) :
    recordCall call store = .ok () (store.addEvent (.call call store.handles)) := rfl

@[simp] theorem run_recordLog (record : LogRecord) (store : Store) :
    recordLog record store = .ok () (store.addEvent (.log record)) := rfl

@[simp] theorem run_target? (serial : Serial) (store : Store) :
    target? serial store = .ok (store.target? serial) store := rfl

@[simp] theorem run_addHandle (form : Form) (slot : Slot) (store : Store) :
    addHandle form slot store = .ok store.nextSerial (store.addHandle form slot) := rfl

end Operation

end CountedHandles
