/-
  The programs — what the provider and the sender do for a command line, up to
  the point where they need the bus.

  A program runs on a host that is given as a value, and what it would write
  comes back as a report: its output, its log and its exit status.

  * `provider` runs a command line of the provider and `sender` one of the
    sender;
  * `Report.bus` tells whether the program went on to the bus, and then with
    what it would have opened its session.
-/
import SignalActuator.Cli.Arguments
import SignalActuator.Config.Rendering
import SignalActuator.Host.Shell
import SignalActuator.Log.Layout
import SignalActuator.Log.Settings
import SignalActuator.Provider.Startup

namespace SignalActuator.Cli

/-- What a program finds when it is started. -/
structure Situation where
  environment : Host.Environment := {}
  files : Host.Files := {}

/-- What a program leaves behind. -/
structure Report where
  exitStatus : Nat
  /-- What it writes besides its log. -/
  output : String := ""
  diagnostics : String := ""
  log : List Log.Record := []
  files : Host.Files := {}
  bus : Option Bus.SessionOptions := none

def version : String := "0.1.0"

/-- The exit status of a program that failed, and of one that was not understood. -/
def failed : Nat := 1
def misused : Nat := 2

/-- The program as its command has it: finished, failed, or on its way to the bus. -/
inductive Ending where
  | finished
  | failed (failure : Failure)
  /-- It ends without a word of its own. -/
  | silent
  | onBus (options : Bus.SessionOptions)

/-- A command so far: its output, its log, the files and how it ended. -/
structure Progress where
  output : String := ""
  log : List Log.Record := []
  files : Host.Files
  ending : Ending

def note (level : Log.Level) (message : String) (fields : Log.Fields := []) : Log.Record :=
  Log.record level .program message fields

/-! ## Commands -/

def checkLocator (files : Host.Files) (text : String) : Progress :=
  match Locator.parse text with
  | .error e => { files, ending := .failed (.locator e) }
  | .ok none =>
    { files, ending := .finished, output := "empty locator: default endpoint will be used\n" }
  | .ok (some l) =>
    { files, ending := .finished
      output := "host=" ++ l.host ++ " port=" ++ toString l.port.toNat ++ " iface=" ++ l.iface ++
        "\n" }

/-- The files that are looked for when no configuration is named. -/
def defaultPaths : List String := ["actuator.toml", "config/actuator.toml"]

def checkConfig (files : Host.Files) (c : Config) (shown : Bool) : Progress where
  files := files
  ending := .finished
  output := if shown then "Current configuration:\n" ++ c.render ++ "\n" else ""
  log := [note .info "Configuration validation complete"]

/-- How long the provider waits for its link, in milliseconds. -/
def patience : Nat := 3600000

/-- Brings the provider up to the point where it opens its session. -/
def run (at_ : Situation) (c : Config) : Progress :=
  let starting := note .info "Provider starting"
    [("device_id", .shown c.device.id), ("key_expr", .shown c.bus.keyExpr)]
  match Provider.watchOf c () with
  | .error f => { files := at_.files, log := [starting], ending := .failed f }
  | .ok watch =>
    let watch := { watch with samples := [at_.files.readText watch.statePath] }
    let wait := Provider.connectLink (Link.Watch.driver Host.Shell.programs) watch c
      at_.environment patience
    match wait.outcome with
    | .timeout => { files := at_.files, log := starting :: wait.log, ending := .silent }
    | .done (.error f) => { files := at_.files, log := starting :: wait.log, ending := .failed f }
    | .done (.ok _) =>
      let output := Provider.configureOutput Host.Files.disk c at_.files
      let log := starting :: wait.log ++ Actuation.Effect.records output.effects
      match output.value with
      | .error f => { files := output.state, log, ending := .failed f }
      | .ok _ =>
        match Provider.sessionOptions c at_.environment with
        | .error f => { files := output.state, log, ending := .failed f }
        | .ok options => { files := output.state, log, ending := .onBus options }

/-- Reads the configuration and carries a command out. -/
def withConfig (at_ : Situation) (path : Option String) (command : Config → Progress) : Progress :=
  match path <|> defaultPaths.find? at_.files.has with
  | none =>
    { files := at_.files, ending := .silent
      log := [note .error ("No configuration file found. Please provide one with -c/--config " ++
        "or create actuator.toml")] }
  | some path =>
    let loading := note .info ("Loading configuration from: " ++ path)
    match Config.load at_.files path with
    | .error e => { files := at_.files, log := [loading], ending := .failed (.config e) }
    | .ok c => let p := command c; { p with log := loading :: p.log }

def ProviderCall.carryOut (at_ : Situation) (call : ProviderCall) : Progress :=
  match call.command with
  | .checkLocator text => checkLocator at_.files text
  | .config shown => withConfig at_ call.configPath (checkConfig at_.files · shown)
  | .run => withConfig at_ call.configPath (run at_)

/-! ## Programs -/

def stopped (at_ : Situation) (name usage : String) : Stop → Report
  | .usage => { exitStatus := misused, diagnostics := usage, files := at_.files }
  | .help => { exitStatus := 0, output := usage, files := at_.files }
  | .version => { exitStatus := 0, output := name ++ " " ++ version ++ "\n", files := at_.files }

def providerUsage : String :=
  "Usage: vss-actuator [-c FILE] [-v] run | config [--show] | check-locator LOCATOR\n"

def senderUsage : String :=
  "Usage: send-command --value true|false [--key-expr KEY] [--locator LOCATOR] [--wait] " ++
    "[--timeout-secs N]\n"

def settings (at_ : Situation) (verbose : Bool) : Log.Settings :=
  .ofEnvironment at_.environment.text? verbose

def provider (at_ : Situation) (words : List String) : Report :=
  match ProviderCall.parse words with
  | .error stop => stopped at_ "vss-actuator" providerUsage stop
  | .ok call =>
    let settings := settings at_ call.verbose
    let p := call.carryOut at_
    let (exitStatus, last, bus) := match p.ending with
      | .finished => (0, [note .info "Application shutdown complete"], none)
      | .failed f => (failed, [note .error ("Command failed: " ++ f.message)
          [("kind", .word f.kind)]], none)
      | .silent => (failed, [], none)
      | .onBus options => (failed, [], some options)
    { exitStatus, bus
      output := p.output
      diagnostics := String.join (settings.ignored.map fun d =>
        "ignoring \x60" ++ d ++ "\x60: invalid filter directive\n")
      log := (note .info ("Starting VSS actuator provider v" ++ version) :: p.log ++ last).filterMap
        settings.filter.apply
      files := p.files }

def sender (at_ : Situation) (words : List String) : Report :=
  match SenderCall.parse words with
  | .error stop => stopped at_ "send-command" senderUsage stop
  | .ok call =>
    match Locator.parse call.locator with
    | .error e =>
      { exitStatus := failed, diagnostics := "❌ " ++ e.message ++ "\n", files := at_.files }
    | .ok locator =>
      let options : Bus.SessionOptions := { clientId := "send-command", locator }
      { exitStatus := failed, files := at_.files, bus := some options
        output := "Connecting to " ++ options.endpoint.1 ++ ":" ++
          toString options.endpoint.2.toNat ++ "...\n" }

def Report.logLines (r : Report) (format : Log.Format) : List String :=
  r.log.map fun record => match format with
    | .json => record.json
    | _ => record.compact

end SignalActuator.Cli
