/-
  Writing configurations — the document that a configuration is read from.

  Every field with a value is written, also one that has its default; fields
  without a value are left out.
-/
import SignalActuator.Config.Basic
import SignalActuator.Config.Reading
import SignalActuator.Toml.Printer

namespace SignalActuator.Config

open Toml (quoted)

def textEntry (key value : String) : List (String × String) :=
  [(key, quoted value)]

def optionalEntry (key : String) (value : Option String) : List (String × String) :=
  (value.map fun v => (key, quoted v)).toList

def natEntry (key : String) (n : Nat) : List (String × String) :=
  [(key, toString n)]

def nameOf {α : Type} [DecidableEq α] (known : List (String × α)) (a : α) : String :=
  ((known.find? fun k => k.2 = a).map (·.1)).getD ""

def toSections (c : Config) : List Toml.Section :=
  [("device", textEntry "id" c.device.id),
   ("bus", textEntry "mode" (nameOf modes c.bus.mode) ++
     textEntry "locator" c.bus.locator ++
     textEntry "key_expr" c.bus.keyExpr ++
     natEntry "connect_timeout_secs" c.bus.connectTimeoutSecs.toNat ++
     natEntry "channel_capacity" c.bus.channelCapacity.toNat ++
     optionalEntry "username_env" c.bus.usernameVariable ++
     optionalEntry "password_env" c.bus.passwordVariable),
   ("link", optionalEntry "interface" c.link.interface ++
     optionalEntry "ssid_env" c.link.ssidVariable ++
     optionalEntry "password_env" c.link.passwordVariable ++
     natEntry "max_retries" c.link.maxRetries.toNat ++
     natEntry "poll_interval_ms" c.link.pollIntervalMs.toNat ++
     (c.link.associateCommand.map fun vs =>
       ("associate_command", Toml.list (vs.map quoted))).toList),
   ("output", textEntry "backend" (nameOf backends c.output.backend) ++
     natEntry "pin" c.output.pin.toNat ++
     textEntry "sysfs_root" c.output.sysfsRoot)]

/-- The document of a configuration. -/
def render (c : Config) : String :=
  Toml.sections c.toSections

end SignalActuator.Config
