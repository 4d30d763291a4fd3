/-
  Log settings — the level, the layout and the filter of the log.

  The words of the settings are ASCII and no other character folds onto their
  letters, so that folding the case of ASCII letters is enough to read them.

  * `Level.parse` and `Format.parse` read the words of the environment;
  * a `Filter` admits a record by the directive with the longest target that
    begins the record's own.
-/
import SignalActuator.Log.Record

namespace SignalActuator.Log

/-- The level with a name in any case; `INFO` for all other texts. -/
def Level.parse (s : String) : Level :=
  match String.ofList (s.toList.map Char.toUpper) with
  | "ERROR" => .error
  | "WARN" => .warn
  | "DEBUG" => .debug
  | "TRACE" => .trace
  | _ => .info

inductive Format where
  | json
  | pretty
  | compact
  deriving DecidableEq, Repr

namespace Format

/-- The layout with a name in any case; JSON for all other texts. -/
def parse (s : String) : Format :=
  match String.ofList (s.toList.map Char.toLower) with
  | "pretty" => .pretty
  | "compact" => .compact
  | _ => .json

def name : Format → String
  | .json => "Json"
  | .pretty => "Pretty"
  | .compact => "Compact"

end Format

/-! ## Filters -/

/-- Admits the records of the targets that begin with `target` up to a rank; a
    rank of zero admits none. -/
structure Directive where
  target : String
  rank : Nat
  deriving DecidableEq, Repr

abbrev Filter := List Directive

namespace Filter

/-- The rank that a word stands for: the name of a level in any case, `off`, or
    a digit from 0 to 5. -/
def rank? (s : String) : Option Nat :=
  match String.ofList (s.toList.map Char.toLower) with
  | "off" | "0" => some 0
  | "error" | "1" => some 1
  | "warn" | "2" => some 2
  | "info" | "3" => some 3
  | "debug" | "4" => some 4
  | "trace" | "5" => some 5
  | _ => none

def isTargetChar (c : Char) : Bool :=
  c.isAlphanum || c == '_' || c == ':' || c == '-'

/-- Reads `level`, `target` or `target=level`; a target without a level admits
    everything, and a word that names a level is never a target. -/
def directive? (s : String) : Option Directive :=
  match rank? s with
  | some r => some ⟨"", r⟩
  | none =>
    let target := s.toList.takeWhile isTargetChar
    let named := if (rank? (String.ofList target)).isSome then "" else String.ofList target
    if target = [] then none
    else match s.toList.drop target.length with
      | [] | ['='] => some ⟨named, 5⟩
      | '=' :: level => (rank? (String.ofList level)).map (⟨named, ·⟩)
      | _ => none

/-- The pieces of a text between commas, without empty ones. -/
def commaPieces (s : String) : List String :=
  ((s.toList.splitOn ',').map String.ofList).filter (· ≠ "")

/-- The filter of a list of directives, and the pieces that are none.  A later
    directive for a target replaces an earlier one; without any directive only
    errors are admitted. -/
def parse (s : String) : Filter × List String :=
  let good := (commaPieces s).filterMap directive?
  let bad := (commaPieces s).filter fun p => (directive? p).isNone
  (if good = [] then [⟨"", 1⟩] else good.reverse, bad)

/-- The filter that admits everything up to a level, and of the chattier
    dependencies only what is at least a warning. -/
def ofLevel (level : Level) : Filter :=
  [⟨"rumqttc", 2⟩, ⟨"tokio", 2⟩, ⟨"mio", 2⟩, ⟨"", level.rank⟩]

/-- The directive that decides on a target: of those whose target begins it,
    the longest, and of several for one target the first in the list. -/
def decisive? (f : Filter) (target : String) : Option Directive :=
  (f.filter fun d => d.target.toList.isPrefixOf target.toList).foldl
    (fun best d => match best with
      | none => some d
      | some b => if b.target.length < d.target.length then some d else some b)
    none

def admits (f : Filter) (target : String) (level : Level) : Bool :=
  match f.decisive? target with
  | some d => level.rank ≤ d.rank
  | none => false

/-- The record as the filter lets it through; a span below the level of the
    filter is not attached to it. -/
def apply (f : Filter) (r : Record) : Option Record :=
  if f.admits r.component.target r.level then
    some { r with span := r.span.filter fun s => f.admits s.component.target .info }
  else none

end Filter

/-! ## Settings -/

structure Settings where
  format : Format
  filter : Filter
  ignored : List String
  deriving DecidableEq, Repr

/-- The settings of an environment.  `verbose` raises the level to at least
    `DEBUG`; a filter given in full takes the place of the level. -/
def Settings.ofEnvironment (env : String → Option String) (verbose : Bool) : Settings :=
  let level := Level.parse ((env "LOG_LEVEL").getD "INFO")
  let level := if verbose && level.rank < Level.debug.rank then .debug else level
  let (filter, ignored) := match env "RUST_LOG" with
    | some directives => Filter.parse directives
    | none => (Filter.ofLevel level, [])
  ⟨Format.parse ((env "LOG_FORMAT").getD "json"), filter, ignored⟩

end SignalActuator.Log
