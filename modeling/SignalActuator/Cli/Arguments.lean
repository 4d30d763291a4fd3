/-
  Command lines — options, flags and operands as they stand on a command line.

  A command line is read from left to right, and the first thing that is wrong
  or asks for help ends it.  An option takes its value from its own word, after
  `=`, or from the next word, which may not look like an option itself.

  * `Grammar` says which options there are, and `Grammar.scan?` splits off the
    options in front;
  * `ProviderCall.parse` and `SenderCall.parse` read the two command lines.
-/
import SignalActuator.KeyExpr

namespace SignalActuator.Cli

/-- Why a command line is not carried out. -/
inductive Stop where
  | usage
  | help
  | version
  deriving DecidableEq, Repr

inductive OptionKind where
  | flag
  | counter
  /-- An option with a value of which this is asked. -/
  | valued (accepts : String → Bool)
  | help
  | version

/-- An option with its long name and its letter, if it has one. -/
structure Opt where
  name : String
  letter : Option Char := none
  kind : OptionKind

abbrev Grammar := List Opt

/-- The options read so far, each use with its value. -/
abbrev Uses := List (String × String)

/-- Whether a word can be the value of an option that stands before it. -/
def isValue (word : String) : Bool :=
  word == "-" || word.toList.head? != some '-'

def use (o : Opt) (value : String) (uses : Uses) : Except Stop Uses :=
  match o.kind with
  | .help => .error .help
  | .version => .error .version
  | .counter => .ok (uses ++ [(o.name, value)])
  | .flag =>
    if uses.any fun u => u.1 == o.name then .error .usage else .ok (uses ++ [(o.name, value)])
  | .valued accepts =>
    if (uses.any fun u => u.1 == o.name) || !accepts value then .error .usage
    else .ok (uses ++ [(o.name, value)])

def Opt.takesValue (o : Opt) : Bool :=
  match o.kind with
  | .valued _ => true
  | _ => false

/-- Reads the letters of a word.  A letter with a value takes the rest of the
    word, without a `=` in front, or the next word. -/
def readLetters (g : Grammar) (uses : Uses) (next : Option String) :
    List Char → Except Stop (Uses × Bool)
  | [] => .ok (uses, false)
  | c :: cs =>
    match g.find? fun o => o.letter == some c with
    | none => .error .usage
    | some o =>
      if o.takesValue then
        match cs, next with
        | [], some v => if isValue v then (use o v uses).map (·, true) else .error .usage
        | [], none => .error .usage
        | '=' :: v, _ => (use o (String.ofList v) uses).map (·, false)
        | v, _ => (use o (String.ofList v) uses).map (·, false)
      else do
        let uses ← use o "" uses
        readLetters g uses next cs

/-- Reads a word that begins with two hyphens; whether it took the next word. -/
def readLong (g : Grammar) (uses : Uses) (next : Option String) (word : List Char) :
    Except Stop (Uses × Bool) :=
  let name := String.ofList (word.takeWhile (· ≠ '='))
  match g.find? fun o => o.name == name with
  | none => .error .usage
  | some o =>
    match word.dropWhile (· ≠ '=') with
    | '=' :: v =>
      if o.takesValue then (use o (String.ofList v) uses).map (·, false) else .error .usage
    | _ =>
      if o.takesValue then
        match next with
        | some v => if isValue v then (use o v uses).map (·, true) else .error .usage
        | none => .error .usage
      else (use o "" uses).map (·, false)

/-- Reads the options in front of the first operand, and leaves the words from
    that on.  Two hyphens alone end the options. -/
def Grammar.scan? (g : Grammar) (uses : Uses) : List String → Except Stop (Uses × List String)
  | [] => .ok (uses, [])
  | w :: ws =>
    match w.toList with
    | ['-', '-'] => .ok (uses, w :: ws)
    | '-' :: '-' :: long => do
      let (uses, took) ← readLong g uses ws.head? long
      match took, ws with
      | true, _ :: rest => scan? g uses rest
      | _, ws => scan? g uses ws
    | '-' :: c :: cs => do
      let (uses, took) ← readLetters g uses ws.head? (c :: cs)
      match took, ws with
      | true, _ :: rest => scan? g uses rest
      | _, ws => scan? g uses ws
    | _ => .ok (uses, w :: ws)

def Uses.value? (uses : Uses) (name : String) : Option String :=
  (uses.find? fun u => u.1 == name).map (·.2)

def Uses.has (uses : Uses) (name : String) : Bool :=
  uses.any fun u => u.1 == name

/-! ## The provider -/

inductive Command where
  | run
  | config (shown : Bool)
  | checkLocator (text : String)
  deriving DecidableEq, Repr

structure ProviderCall where
  configPath : Option String
  verbose : Bool
  command : Command
  deriving DecidableEq, Repr

def helpOption : Opt := { name := "help", letter := some 'h', kind := .help }

def providerGrammar : Grammar :=
  [{ name := "config", letter := some 'c', kind := .valued (· != "") },
   { name := "verbose", letter := some 'v', kind := .counter },
   helpOption,
   { name := "version", letter := some 'V', kind := .version }]

def showGrammar : Grammar :=
  [{ name := "show", kind := .flag }, helpOption]

/-- Options around at most one operand, which may be anything after two hyphens. -/
def oneOperand (g : Grammar) (words : List String) : Except Stop (Uses × Option String) := do
  match ← g.scan? [] words with
  | (uses, []) => return (uses, none)
  | (uses, ["--"]) => return (uses, none)
  | (uses, ["--", operand]) => return (uses, some operand)
  | (uses, operand :: rest) =>
    if operand = "--" then throw .usage
    else match ← g.scan? uses rest with
      | (uses, []) | (uses, ["--"]) => return (uses, some operand)
      | _ => throw .usage

namespace ProviderCall

def commandNames : List String := ["run", "config", "check-locator", "help"]

def parseCommand : List String → Except Stop Command
  | "run" :: words => do
    match ← oneOperand [helpOption] words with
    | (_, none) => return .run
    | _ => throw .usage
  | "config" :: words => do
    match ← oneOperand showGrammar words with
    | (uses, none) => return .config (uses.has "show")
    | _ => throw .usage
  | "check-locator" :: words => do
    match ← oneOperand [helpOption] words with
    | (_, some text) => return .checkLocator text
    | _ => throw .usage
  | ["help"] => .error .help
  | ["help", name] => .error (if name ∈ commandNames then .help else .usage)
  | _ => .error .usage

def parse (words : List String) : Except Stop ProviderCall := do
  let (uses, rest) ← providerGrammar.scan? [] words
  let command ← parseCommand rest
  return ⟨uses.value? "config", uses.has "verbose", command⟩

end ProviderCall

/-! ## The sender -/

structure SenderCall where
  value : Bool
  keyExpr : String
  locator : String
  /-- Whether to wait for a report, and how long. -/
  wait : Bool
  timeoutSecs : UInt64
  deriving DecidableEq, Repr

namespace SenderCall

/-- One of the two words for a value. -/
def truth? : String → Option Bool
  | "true" => some true
  | "false" => some false
  | _ => none

/-- A number of seconds: digits, with or without a plus in front. -/
def seconds? (s : String) : Option UInt64 :=
  let digits : List Char := match s.toList with
    | '+' :: ds => ds
    | ds => ds
  let n : Nat := digits.foldl (fun n c => n * 10 + (c.toNat - '0'.toNat)) 0
  if digits ≠ [] ∧ digits.all Char.isDigit ∧ n < UInt64.size then some (.ofNat n) else none

def grammar : Grammar :=
  [{ name := "value", kind := .valued fun s => (truth? s).isSome },
   { name := "key-expr", kind := .valued fun _ => true },
   { name := "locator", kind := .valued fun _ => true },
   { name := "wait", kind := .flag },
   { name := "timeout-secs", kind := .valued fun s => (seconds? s).isSome },
   helpOption]

def parse (words : List String) : Except Stop SenderCall := do
  let (uses, rest) ← grammar.scan? [] words
  match (uses.value? "value").bind truth?, rest with
  | some value, [] | some value, ["--"] =>
    return { value
             keyExpr := (uses.value? "key-expr").getD KeyExpr.default
             locator := (uses.value? "locator").getD ""
             wait := uses.has "wait"
             timeoutSecs := ((uses.value? "timeout-secs").bind seconds?).getD 5 }
  | _, _ => throw .usage

end SenderCall

end SignalActuator.Cli
