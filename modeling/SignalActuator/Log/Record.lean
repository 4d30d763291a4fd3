/-
  Log records — what the provider reports about its own work.

  A record has a level, the component that wrote it, a message and named
  fields.  A record written inside of a span carries that span with the fields
  it was opened with.
-/
namespace SignalActuator.Log

/-- The weight of a record, the gravest first. -/
inductive Level where
  | error
  | warn
  | info
  | debug
  | trace
  deriving DecidableEq, Repr

namespace Level

/-- The place of a level: what a filter admits grows with it. -/
def rank : Level → Nat
  | .error => 1
  | .warn => 2
  | .info => 3
  | .debug => 4
  | .trace => 5

def name : Level → String
  | .error => "ERROR"
  | .warn => "WARN"
  | .info => "INFO"
  | .debug => "DEBUG"
  | .trace => "TRACE"

end Level

inductive Component where
  | program
  | lifecycle
  | establisher
  | supervisor
  | interface
  | output
  | gpio
  | consumer
  | engine
  | confirmation
  | session
  | wire
  deriving DecidableEq, Repr

/-- The path under which filters and layouts know a component. -/
def Component.target : Component → String
  | .program => "vss_actuator"
  | .lifecycle => "vss_actuator::lifecycle"
  | .establisher => "vss_actuator::link::establisher"
  | .supervisor => "vss_actuator::link::connectivity"
  | .interface => "vss_actuator::link::sysfs"
  | .output => "vss_actuator::output"
  | .gpio => "vss_actuator::output::sysfs"
  | .consumer => "vss_actuator::actuator"
  | .engine => "vss_actuator::actuator::engine"
  | .confirmation => "vss_actuator::actuator::confirmation"
  | .session => "vss_actuator::transport::mqtt::client"
  | .wire => "mqtt_transport"

/-- The value of a field.  A `word` is shown between quotes where layouts quote,
    a `shown` value never. -/
inductive Value where
  | word (s : String)
  | shown (s : String)
  | number (n : Nat)
  | flag (b : Bool)
  deriving DecidableEq, Repr

/-- Named values, in the order in which they were given. -/
abbrev Fields := List (String × Value)

/-- A stretch of work that records are written inside of. -/
structure Span where
  name : String
  component : Component
  fields : Fields
  deriving DecidableEq, Repr

structure Record where
  level : Level
  component : Component
  message : String
  fields : Fields
  span : Option Span
  deriving DecidableEq, Repr

def record (level : Level) (component : Component) (message : String) (fields : Fields) : Record :=
  ⟨level, component, message, fields, none⟩

def Record.within (span : Span) (r : Record) : Record :=
  { r with span := some span }

end SignalActuator.Log
