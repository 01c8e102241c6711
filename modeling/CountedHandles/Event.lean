import CountedHandles.Config
import CountedHandles.Handle
import CountedHandles.Roster

/-!
# Events

What happens during an operation is kept as a sequence of events: the handles that come into being,
the calls that referents receive, each with the handles as they stood at that moment, and the
records for the log. Which events are shown depends on the configuration alone.
-/

namespace CountedHandles

/-- What a referent is called for. -/
inductive Message where
  /-- One more handle holds it. -/
  | increment
  /-- One handle less holds it. -/
  | decrement
  /-- A notice about which handles hold it. -/
  | notice (notice : Notice)
deriving DecidableEq

/-- A call that a referent receives. -/
structure Call where
  /-- The name of the referent. -/
  referent : String
  /-- What it is called for. -/
  message : Message
deriving DecidableEq

/-- The written form of a call. -/
def Call.text (call : Call) : String :=
  match call.message with
  | .increment => "inc " ++ call.referent
  | .decrement => "dec " ++ call.referent
  | .notice (.register serial) => "register " ++ call.referent ++ " " ++ serial.text
  | .notice (.unregister serial) => "unregister " ++ call.referent ++ " " ++ serial.text
  | .notice (.copy source destination) =>
    "copy " ++ call.referent ++ " " ++ source.text ++ " " ++ destination.text
  | .notice (.move source destination) =>
    "move " ++ call.referent ++ " " ++ source.text ++ " " ++ destination.text

/-- A record for the log. -/
inductive LogRecord where
  /-- A handle gives its referent away to a new handle of some form. -/
  | releasing (address : Address) (form : Form)
  /-- A bucket of a hash table is about to be deleted. -/
  | reclaiming (address : Address)
  /-- A roster follows a notice. -/
  | following (notice : Notice)
deriving DecidableEq

namespace LogRecord

/-- The level at which a record is logged. -/
def level : LogRecord → LogLevel
  | .releasing _ _ => .debug
  | .reclaiming _ => .trace
  | .following _ => .trace

/-- The wording of a record. -/
def message : LogRecord → String
  | .releasing address form => "checkedref releasing " ++ address.text ++ " into a " ++ form.text
  | .reclaiming address =>
    "checkedref reclaiming hash table bucket holding " ++ address.text
  | .following (.register serial) => "checkedref registering handle " ++ serial.text
  | .following (.unregister serial) => "checkedref unregistering handle " ++ serial.text
  | .following (.copy source destination) =>
    "checkedref registering handle " ++ destination.text ++ " as a copy of " ++ source.text
  | .following (.move source destination) =>
    "checkedref moving registration from handle " ++ source.text ++ " to " ++ destination.text

end LogRecord

/-- Something that happens during an operation. -/
inductive Event where
  /-- A handle comes into being. -/
  | created (handle : Handle)
  /-- A referent receives a call while certain handles exist. -/
  | call (received : Call) (handles : List Handle)
  /-- A record goes to the log. -/
  | log (record : LogRecord)
deriving DecidableEq

namespace Event

/-- The call that an event consists of. -/
def call? : Event → Option Call
  | .created _ => none
  | .call received _ => some received
  | .log _ => none

/-- The handle that comes into being by an event. -/
def created? : Event → Option Handle
  | .created handle => some handle
  | .call _ _ => none
  | .log _ => none

/-- The line that shows an event, where the configuration lets it be seen. -/
def line? (config : Config) : Event → Option String
  | .created _ => none
  | .call received _ => if config.kind.showsCalls then some received.text else none
  | .log record =>
    if config.log.includes record.level then
      some (record.level.text ++ " " ++ record.message)
    else none

end Event

end CountedHandles
