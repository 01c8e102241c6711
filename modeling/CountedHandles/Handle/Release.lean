import CountedHandles.Referent.Calls

/-!
# Releasing handles

A handle that goes away leaves the roster of its referent and then gives up its count. A temporary
handle of an operation is released as well when the operation panics.
-/

namespace CountedHandles.Handle

open Operation

/-- Drops a handle. -/
def release (config : Config) (serial : Serial) : Operation Unit := do
  let held? ← target? serial
  modify fun store => store.removeHandle serial
  onTarget held? fun name => do
    Referent.notify config name (.unregister serial)
    Referent.decrement config name

/-- Runs an operation while a temporary handle exists, which is dropped if the operation panics. -/
def withTemporary (config : Config) (temporary : Serial) (operation : Operation α) :
    Operation α :=
  recovering operation (release config temporary)

/-- Drops handles one after the other; a panic does not spare the rest. -/
def releaseAll (config : Config) : List Serial → Operation Unit
  | [] => pure ()
  | serial :: rest => ensuring (release config serial) (releaseAll config rest)

/-- Drops handles one after the other and collects the panics of those that panic. -/
def releaseEach (config : Config) : List Serial → Operation (List Panic)
  | [] => pure []
  | serial :: rest => fun store =>
    match release config serial store with
    | .ok _ after => releaseEach config rest after
    | .error (.panic cause) after => ((cause :: ·) <$> releaseEach config rest) after
    | .error fault after => .error fault after

end CountedHandles.Handle
