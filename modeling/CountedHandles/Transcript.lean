import CountedHandles.Answer

/-!
# Transcripts

A transcript shows a run step by step: what each step came to, the counts of all referents after
it, and the events in it. A run that cannot go on ends with an abortion instead of another step. A
lifetime violation is reported through the log if it takes errors and otherwise directly, on a
standard error stream that is taken to accept what is written to it.
-/

namespace CountedHandles

/-- What a step comes to. -/
inductive Outcome where
  | answered (answer : Answer)
  | refused (refusal : Refusal)
  | panicked (panic : Panic)
deriving DecidableEq

/-- What a step shows. -/
structure Step where
  /-- What it came to. -/
  outcome : Outcome
  /-- The counts of all referents so far, as far as they still exist. -/
  counts : List (Option Nat)
  /-- What happened in it, in order. -/
  events : List Event
deriving DecidableEq

/-- Where a violation is reported. -/
inductive Channel where
  /-- Through the log, as an error. -/
  | log
  /-- Directly, for want of a log. -/
  | stderr
deriving DecidableEq

/-- Why a run cannot go on. -/
inductive Abortion where
  /-- A referent was destroyed while handles held it, after some events of the step. -/
  | violation (violation : Violation) (channel : Channel) (events : List Event)
  /-- A panic arose while another one unwound, or a count was to be raised above its limit. -/
  | collapse
deriving DecidableEq

/-- A text that is meant to outlive the run. -/
structure Emission where
  /-- Where it is written. -/
  channel : Channel
  /-- What is written. -/
  text : String
deriving DecidableEq

/-- What a run shows. -/
structure Transcript where
  /-- The steps that were completed. -/
  steps : List Step
  /-- What happened instead of another step, if the run could not go on. -/
  abortion? : Option Abortion
deriving DecidableEq

namespace Config

/-- Where a run reports a violation. -/
def channel (config : Config) : Channel :=
  if config.log.includes .error then .log else .stderr

/-- What is written about a violation before the process ends, given the backtraces that were
captured. -/
def announce (config : Config) (backtrace? : Serial → Option String) (violation : Violation) :
    List Emission :=
  if config.log.includes .error then [⟨.log, violation.report backtrace?⟩]
  else [⟨.stderr, violation.report backtrace?⟩]

/-- The lines that show events, as far as the configuration lets them be seen. -/
def trace (config : Config) (events : List Event) : List String :=
  events.filterMap (Event.line? config)

/-- What events write for good, namely their records of errors as far as the log takes them. -/
def errors (config : Config) (events : List Event) : List Emission :=
  events.filterMap fun
    | .log record =>
      if record.level = .error ∧ config.log.includes .error = true then
        some ⟨.log, record.message⟩
      else none
    | _ => none

end Config

/-- What the end of a run writes for good. -/
def Abortion.emissions (config : Config) (backtrace? : Serial → Option String) :
    Abortion → List Emission
  | .violation report _ events => config.errors events ++ config.announce backtrace? report
  | .collapse => []

/-- What a run writes for good, in order. -/
def Transcript.emissions (config : Config) (backtrace? : Serial → Option String)
    (transcript : Transcript) : List Emission :=
  config.errors (transcript.steps.flatMap Step.events) ++
    transcript.abortion?.elim [] (Abortion.emissions config backtrace?)

end CountedHandles
