/-
  The command line of the provider — the outer layer, which looks at the files
  and the environment, runs the program on them and prints its report.
-/
import SignalActuator.Cli.Program

namespace SignalActuator.Cli

/-- The files with another one, if it can be read. -/
def lookAt (files : Host.Files) (path : String) : IO Host.Files := do
  try
    let contents ← IO.FS.readBinFile path
    return files.makeFile (files.locate path) contents.toList
  catch _ => return files

/-- The environment with another variable, if it is set. -/
def lookUp (env : Host.Environment) (name : String) : IO Host.Environment := do
  match ← IO.getEnv name with
  | some value => return ⟨env.entries ++ [(name, Utf8.encode value)]⟩
  | none => return env

def namedVariables (c : Config) : List String :=
  [c.bus.usernameVariable, c.bus.passwordVariable, c.link.ssidVariable,
    c.link.passwordVariable].filterMap id

/-- What the provider finds: the configuration of its command line, and what that
    refers to. -/
def situation (words : List String) : IO Situation := do
  let paths := match ProviderCall.parse words with
    | .ok { configPath := some path, .. } => [path]
    | _ => defaultPaths
  let files ← paths.foldlM lookAt {}
  let env ← ["LOG_FORMAT", "LOG_LEVEL", "RUST_LOG"].foldlM lookUp {}
  match (paths.find? files.has).map (Config.load files) with
  | some (.ok c) =>
    let env ← (namedVariables c).foldlM lookUp env
    let files ← match Provider.watchOf c () with
      | .ok watch => lookAt files watch.statePath
      | .error _ => pure files
    return ⟨env, files⟩
  | _ => return ⟨env, files⟩

end SignalActuator.Cli

def main (words : List String) : IO UInt32 := do
  let at_ ← SignalActuator.Cli.situation words
  let report := SignalActuator.Cli.provider at_ words
  for line in report.logLines (SignalActuator.Cli.settings at_ false).format do
    IO.println line
  IO.print report.output
  IO.eprint report.diagnostics
  if report.bus.isSome then
    IO.eprintln "The link is up and the output prepared, but the bus is out of reach."
  return report.exitStatus.toUInt32
