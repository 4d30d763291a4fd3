/-
  Reading configurations — from a document, and from a file that holds one.

  Every section but the device's may be missing, and so may every field that
  has a default.  A section that is missing is the default of its type; a
  section that is there begins with the `initial` values of its shape.
-/
import SignalActuator.Config.Basic
import SignalActuator.Host.Files

namespace SignalActuator.Config

open Toml (Value Mismatch Shape)

/-! ## Fields -/

def textField {ρ : Type} (key : String) (set : String → ρ → ρ) (hasDefault : Bool)
    (expected : String := "a string") : Toml.Field ρ :=
  ⟨key, fun v r => (v.asString expected).map (set · r), hasDefault⟩

def natField32 {ρ : Type} (key : String) (set : UInt32 → ρ → ρ) : Toml.Field ρ :=
  ⟨key, fun v r => (v.asNat 32 "u32").map fun n => set (.ofNat n) r, true⟩

def natField64 {ρ : Type} (key : String) (set : UInt64 → ρ → ρ) (expected : String := "u64") :
    Toml.Field ρ :=
  ⟨key, fun v r => (v.asNat 64 expected).map fun n => set (.ofNat n) r, true⟩

/-- A field that holds one of several names. -/
def variantField {ρ α : Type} (key : String) (known : List (String × α)) (set : α → ρ → ρ) :
    Toml.Field ρ :=
  ⟨key, fun v r => (v.asVariant known).map (set · r), true⟩

/-! ## Sections -/

/-- The device, before and after its name is known. -/
def deviceShape : Shape (Option String) where
  name := "DeviceSection"
  fields := [textField "id" (fun s _ => some s) false]
  initial := none

def modes : List (String × Bus.Mode) :=
  [("client", .client), ("peer", .peer)]

def busShape : Shape BusSettings where
  name := "BusSection"
  fields :=
    [variantField "mode" modes fun m b => { b with mode := m },
     textField "locator" (fun s b => { b with locator := s }) true,
     textField "key_expr" (fun s b => { b with keyExpr := s }) true,
     natField64 "connect_timeout_secs" fun n b => { b with connectTimeoutSecs := n },
     natField64 "channel_capacity" (fun n b => { b with channelCapacity := n }) "usize",
     textField "username_env" (fun s b => { b with usernameVariable := some s }) false,
     textField "password_env" (fun s b => { b with passwordVariable := some s }) false]
  initial :=
    { mode := .client
      locator := ""
      keyExpr := KeyExpr.default
      connectTimeoutSecs := 10
      channelCapacity := 32
      usernameVariable := none
      passwordVariable := none }

def linkShape : Shape LinkSettings where
  name := "LinkSection"
  fields :=
    [textField "interface" (fun s l => { l with interface := some s }) false,
     textField "ssid_env" (fun s l => { l with ssidVariable := some s }) false,
     textField "password_env" (fun s l => { l with passwordVariable := some s }) false,
     natField32 "max_retries" fun n l => { l with maxRetries := n },
     natField64 "poll_interval_ms" fun n l => { l with pollIntervalMs := n },
     ⟨"associate_command",
      fun v l => v.asStrings.map fun c => { l with associateCommand := some c }, false⟩]
  initial :=
    { interface := none
      ssidVariable := none
      passwordVariable := none
      maxRetries := 5
      pollIntervalMs := 1000
      associateCommand := none }

def backends : List (String × Output.Backend) :=
  [("sysfs", .sysfs), ("log", .log)]

def outputShape : Shape OutputSettings where
  name := "OutputSection"
  fields :=
    [variantField "backend" backends fun b o => { o with backend := b },
     natField32 "pin" fun n o => { o with pin := n },
     textField "sysfs_root" (fun s o => { o with sysfsRoot := s }) true "path string"]
  initial :=
    { backend := .sysfs
      pin := 25
      sysfsRoot := "/sys/class/gpio" }

/-- Reads the device, whose name has no default. -/
def readDevice (v : Value) : Except Mismatch Device := do
  match ← deviceShape.read v with
  | some id => return ⟨id⟩
  | none => throw (.missingKey "id")

/-! ## Documents -/

structure Sections where
  device : Option Device := none
  bus : BusSettings := {}
  link : LinkSettings := {}
  output : OutputSettings := {}

def documentShape : Shape Sections where
  name := "ActuatorConfig"
  fields :=
    [⟨"device", fun v s => (readDevice v).map fun d => { s with device := some d }, false⟩,
     ⟨"bus", fun v s => (busShape.read v).map fun b => { s with bus := b }, true⟩,
     ⟨"link", fun v s => (linkShape.read v).map fun l => { s with link := l }, true⟩,
     ⟨"output", fun v s => (outputShape.read v).map fun o => { s with output := o }, true⟩]
  initial := {}

/-- Reads a configuration out of the entries of a document. -/
def ofEntries (es : Toml.Entries) : Except Mismatch Config := do
  let s ← es.foldlM documentShape.readEntry documentShape.initial
  match s.device with
  | some device => return { device, bus := s.bus, link := s.link, output := s.output }
  | none => throw (.missingKey "device")

def parse (text : String) : Except Error Config := do
  match Toml.parse? text with
  | none => throw (.malformed none)
  | some es =>
    let c ← (ofEntries es).mapError (.malformed ∘ some)
    c.validate
    return c

def load (files : Host.Files) (path : String) : Except Error Config := do
  let text ← (files.readText path).mapError .unreadable
  parse text

end SignalActuator.Config
