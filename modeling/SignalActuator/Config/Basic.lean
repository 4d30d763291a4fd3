/-
  Configurations — what a provider is told about its device, its bus, its link
  and its output.

  Secrets are not part of a configuration: it names variables of the
  environment, which are looked up when a value is needed.

  * `Config.validate` checks what cannot be left to later;
  * `Config.locator`, `Config.linkInterface`, `Config.credentials` and
    `Config.session` are derived from a configuration and an environment.
-/
import SignalActuator.Bus.Options
import SignalActuator.Host.Environment
import SignalActuator.Host.Fault
import SignalActuator.Link.Supervisor
import SignalActuator.Output.Line
import SignalActuator.Toml.Typed

namespace SignalActuator

namespace Config

/-! ## Sections -/

structure Device where
  /-- The name of the device, under which it connects to the bus. -/
  id : String
  deriving DecidableEq, Repr

structure BusSettings where
  mode : Bus.Mode := .client
  /-- A locator, or the empty text for the default endpoint. -/
  locator : String := ""
  keyExpr : String := KeyExpr.default
  connectTimeoutSecs : UInt64 := 10
  channelCapacity : UInt64 := 32
  /-- The variables that hold the credentials of the bus. -/
  usernameVariable : Option String := none
  passwordVariable : Option String := none
  deriving DecidableEq, Repr

structure LinkSettings where
  interface : Option String := none
  ssidVariable : Option String := none
  passwordVariable : Option String := none
  maxRetries : UInt32 := 5
  pollIntervalMs : UInt64 := 1000
  associateCommand : Option (List String) := none
  deriving DecidableEq, Repr

structure OutputSettings where
  backend : Output.Backend := .sysfs
  pin : UInt32 := 25
  sysfsRoot : String := "/sys/class/gpio"
  deriving DecidableEq, Repr

end Config

structure Config where
  device : Config.Device
  bus : Config.BusSettings := {}
  link : Config.LinkSettings := {}
  output : Config.OutputSettings := {}
  deriving DecidableEq, Repr

namespace Config

/-! ## Failures -/

inductive Error where
  | unreadable (fault : Host.Fault)
  /-- The text is no document, or a value in it is not of its type. -/
  | malformed (mismatch : Option Toml.Mismatch)
  | unsetVariable (name : String)
  | invalidDevice (reason : String)
  | invalidLocator (error : Locator.Error)
  | invalidKeyExpr (error : KeyExpr.Error)
  | invalid (reason : String)
  deriving DecidableEq, Repr

namespace Error

/-- What is wrong with a malformed document, where it has a text of its own. -/
def detail? : Error → Option String
  | .malformed m => m.bind (·.reason?)
  | _ => none

def message : Error → String
  | .unreadable f => "Failed to read config file: " ++ f.message
  | .malformed m => "Failed to parse TOML: " ++ (m.bind (·.reason?)).getD "invalid document"
  | .unsetVariable n => "Environment variable not found: " ++ n
  | .invalidDevice r => "Invalid device ID format: " ++ r
  | .invalidLocator e => "Invalid locator: " ++ e.message
  | .invalidKeyExpr e => "Invalid key-expression: " ++ e.message
  | .invalid r => "Invalid configuration: " ++ r

/-- The texts of what lies under a failure, the nearest first. -/
def causes : Error → List String
  | .unreadable f => [f.message]
  | .malformed m => [(m.bind (·.reason?)).getD "invalid document"]
  | .invalidLocator e => [e.message]
  | .invalidKeyExpr e => [e.message]
  | _ => []

end Error

/-! ## Validation -/

def isDeviceChar (c : Char) : Bool :=
  c.isAlphanum || c == '.' || c == '_' || c == '-'

def validateDevice (id : String) : Except Error Unit :=
  if id ≠ "" ∧ id.toList.all isDeviceChar then .ok ()
  else .error (.invalidDevice ("Device ID '" ++ id ++ "' must match pattern [a-zA-Z0-9._-]+"))

/-- Checks a configuration: the name of the device, the shape of the locator, the
    key-expression, and the two numbers that may not be zero. -/
def validate (c : Config) : Except Error Unit := do
  validateDevice c.device.id
  (Locator.validate c.bus.locator).mapError .invalidLocator
  (KeyExpr.validate c.bus.keyExpr).mapError .invalidKeyExpr
  if c.bus.channelCapacity = 0 then
    throw (.invalid "bus.channel_capacity must be greater than zero")
  if c.link.pollIntervalMs = 0 then
    throw (.invalid "link.poll_interval_ms must be greater than zero")

/-! ## Derived values -/

def defaultInterface : String := "wlan0"

/-- The locator of the bus, if it is not the default endpoint. -/
def locator (c : Config) : Except Error (Option Locator) :=
  (Locator.parse c.bus.locator).mapError .invalidLocator

/-- The interface to watch: the one that is set, else the one of the locator,
    else the default. -/
def linkInterface (c : Config) : Except Error String :=
  match c.link.interface with
  | some i => .ok i
  | none => do
    let l ← c.locator
    return (l.map (·.iface)).getD defaultInterface

/-- The value of a variable that must be set if it is named; an unnamed one is
    empty. -/
def required (env : Host.Environment) : Option String → Except Error String
  | none => .ok ""
  | some name =>
    match env.text? name with
    | some v => .ok v
    | none => .error (.unsetVariable name)

def credentials (c : Config) (env : Host.Environment) : Except Error Link.Credentials := do
  let ssid ← required env c.link.ssidVariable
  let password ← required env c.link.passwordVariable
  return ⟨ssid, password⟩

def busUsername (c : Config) (env : Host.Environment) : Option String :=
  c.bus.usernameVariable.bind env.text?

def busPassword (c : Config) (env : Host.Environment) : Option String :=
  c.bus.passwordVariable.bind env.text?

def retryPolicy (c : Config) : Link.RetryPolicy :=
  ⟨c.link.maxRetries, c.link.pollIntervalMs.toNat⟩

def session (c : Config) (env : Host.Environment) : Except Error Bus.SessionOptions := do
  let l ← c.locator
  return { clientId := c.device.id
           mode := c.bus.mode
           locator := l
           username := c.busUsername env
           password := c.busPassword env
           connectTimeout := .ofSeconds c.bus.connectTimeoutSecs.toNat
           channelCapacity := c.bus.channelCapacity }

end Config

end SignalActuator
