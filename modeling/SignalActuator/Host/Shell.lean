/-
  The shell — a host with a few programs and a small command language.

  The programs are those that association commands use to try themselves out:
  `true`, `false`, `test`, `echo`, `cat` without a file, and `sh`.  The command
  language has simple commands, quoting, positional parameters, and lists with
  `;`, `&&` and `||`.  No input is read and nothing is written.

  * `tokens?` splits a script, and refuses what is not of the language;
  * `runScript` runs one, and `programs` is the host.
-/
import SignalActuator.Host.Programs

namespace SignalActuator.Host.Shell

/-! ## Reading -/

inductive Piece where
  | text (c : Char)
  | parameter (name : Char)
  deriving DecidableEq, Repr

/-- A token of a script.  A word with a quote in it is kept even if it is empty. -/
inductive Token where
  | word (pieces : List Piece) (quoted : Bool)
  | separator
  /-- Runs what follows if what precedes succeeded. -/
  | andThen
  /-- Runs what follows if what precedes failed. -/
  | orElse
  deriving DecidableEq, Repr

inductive Mode where
  | between
  | bare
  | single
  | double
  | comment
  deriving DecidableEq, Repr

/-- A reader: its mode, and the word under construction. -/
structure Reader where
  mode : Mode := .between
  pieces : List Piece := []
  quoted : Bool := false

def Reader.push (r : Reader) (p : Piece) : Reader :=
  { r with pieces := r.pieces ++ [p], mode := if r.mode = .between then .bare else r.mode }

def Reader.flush (r : Reader) : List Token :=
  if r.mode = .bare then [.word r.pieces r.quoted] else []

def isParameter (c : Char) : Bool :=
  c.isDigit || c == '$' || c == '#' || c == '?' || c == '@' || c == '*'

/-- A character with a meaning that this language has no use for. -/
def isReserved (c : Char) : Bool :=
  c == '|' || c == '&' || c == '<' || c == '>' || c == '(' || c == ')' || c == '\x60'

/-- The tokens of a script, or nothing for what is not of the language. -/
def readTokens (r : Reader) : List Char → Option (List Token)
  | [] => if r.mode = .single ∨ r.mode = .double then none else some r.flush
  | '\\' :: c :: cs =>
    match r.mode with
    | .comment => readTokens r (c :: cs)
    | .single => readTokens (r.push (.text '\\')) (c :: cs)
    | .double =>
      if c = '$' ∨ c = '"' ∨ c = '\\' then readTokens (r.push (.text c)) cs
      else readTokens (r.push (.text '\\')) (c :: cs)
    | _ => readTokens (r.push (.text c)) cs
  | '$' :: c :: cs =>
    if isParameter c ∧ r.mode ≠ .single ∧ r.mode ≠ .comment then
      readTokens (r.push (.parameter c)) cs
    else if r.mode = .comment then readTokens r (c :: cs)
    else readTokens (r.push (.text '$')) (c :: cs)
  | '&' :: '&' :: cs =>
    match r.mode with
    | .comment => readTokens r cs
    | .single | .double => readTokens ((r.push (.text '&')).push (.text '&')) cs
    | _ => (readTokens {} cs).map (r.flush ++ .andThen :: ·)
  | '|' :: '|' :: cs =>
    match r.mode with
    | .comment => readTokens r cs
    | .single | .double => readTokens ((r.push (.text '|')).push (.text '|')) cs
    | _ => (readTokens {} cs).map (r.flush ++ .orElse :: ·)
  | c :: cs =>
    match r.mode with
    | .single =>
      if c = '\'' then readTokens { r with mode := .bare } cs
      else readTokens (r.push (.text c)) cs
    | .double =>
      if c = '"' then readTokens { r with mode := .bare } cs
      else if c = '\x60' then none
      else readTokens (r.push (.text c)) cs
    | .comment =>
      if c = '\n' then (readTokens {} cs).map (.separator :: ·) else readTokens r cs
    | _ =>
      if c = '\'' then readTokens { r with mode := .single, quoted := true } cs
      else if c = '"' then readTokens { r with mode := .double, quoted := true } cs
      else if c = ' ' ∨ c = '\t' then (readTokens {} cs).map (r.flush ++ ·)
      else if c = ';' ∨ c = '\n' then
        (readTokens {} cs).map (r.flush ++ .separator :: ·)
      else if c = '#' ∧ r.mode = .between then readTokens { r with mode := .comment } cs
      else if isReserved c then none
      else readTokens (r.push (.text c)) cs

def tokens? (script : String) : Option (List Token) :=
  readTokens {} script.toList

/-! ## Commands -/

structure Parameters where
  name : String
  arguments : List String
  last : Nat := 0

def processId : String := "4242"

/-- The text of a parameter; one that is not set is empty. -/
def Parameters.text (p : Parameters) (c : Char) : String :=
  if c = '0' then p.name
  else if c.isDigit then (p.arguments[c.toNat - '1'.toNat]?).getD ""
  else if c = '$' then processId
  else if c = '#' then toString p.arguments.length
  else if c = '?' then toString p.last
  else " ".intercalate p.arguments

/-- The text of a word, or nothing for a bare word that comes out empty. -/
def Parameters.expand? (p : Parameters) (pieces : List Piece) (quoted : Bool) : Option String :=
  let text := String.join (pieces.map fun
    | .text c => String.singleton c
    | .parameter c => p.text c)
  if text = "" ∧ ¬ quoted then none else some text

/-- Whether a test holds; nothing for one that is not understood. -/
def test? : List String → Option Bool
  | [] => some false
  | [s] => some (s != "")
  | ["!", s] => some (s == "")
  | ["-n", s] => some (s != "")
  | ["-z", s] => some (s == "")
  | [_, s] => if s = "" then none else some false
  | [a, "=", b] => some (a == b)
  | [a, "!=", b] => some (a != b)
  | [a, "-eq", b] => do return (← a.toInt?) == (← b.toInt?)
  | [a, "-ne", b] => do return (← a.toInt?) != (← b.toInt?)
  | ["!", a, "=", b] => some (a != b)
  | ["!", a, "!=", b] => some (a == b)
  | _ => none

def testCode (arguments : List String) : Nat :=
  match test? arguments with
  | some true => 0
  | some false => 1
  | none => 2

/-- The signal that an option of `kill` names. -/
def signal? (option : String) : Option Nat :=
  match option.toList with
  | '-' :: name =>
    let name := String.ofList name
    name.toNat?.orElse fun _ =>
      ((List.range signalNames.size).find? fun i =>
        signalNames[i]? == some name || signalNames[i]? == some ("SIG" ++ name)).map (· + 1)
  | _ => none

/-- The signals that do not end a program which does nothing about them. -/
def harmless : List Nat := [0, 17, 18, 23, 28]

/-- What a command comes to: an exit code, or the end of the shell. -/
abbrev Ended := Except ExitStatus Nat

def runCommand (p : Parameters) : List String → Ended
  | [] => .ok 0
  | "!" :: _ => .ok 0
  | "exit" :: [] => .error (.exited p.last)
  | "exit" :: n :: _ => .error (.exited ((n.toNat?.map (· % 256)).getD 2))
  | ["kill", option, target] =>
    match signal? option with
    | none => .ok 2
    | some n =>
      if target ≠ processId then .ok 1
      else if n ∈ harmless then .ok 0
      else .error (.signalled n)
  | ["kill", target] => if target = processId then .error (.signalled 15) else .ok 1
  | "test" :: arguments => .ok (testCode arguments)
  | "[" :: arguments =>
    if arguments.getLast? = some "]" then .ok (testCode arguments.dropLast) else .ok 2
  | "false" :: _ => .ok 1
  | "read" :: _ => .ok 1
  | c :: arguments =>
    if c ∈ ["true", ":", "echo", "printf", "cd", "set", "sleep"] then .ok 0
    else if c = "cat" then .ok (if arguments = [] then 0 else 1)
    else .ok 127

/-! ## Scripts -/

/-- The words up to the next connective, that one, and what follows it. -/
def nextCommand : List Token → List (List Piece × Bool) × Option Token × List Token
  | [] => ([], none, [])
  | .word pieces quoted :: ts =>
    let (ws, t, rest) := nextCommand ts
    ((pieces, quoted) :: ws, t, rest)
  | t :: ts => ([], some t, ts)

def runsAfter (connective : Token) (last : Nat) : Bool :=
  match connective with
  | .andThen => last == 0
  | .orElse => last != 0
  | _ => true

def runTokens (p : Parameters) (before : Token) : Nat → List Token → ExitStatus
  | 0, _ => .exited p.last
  | fuel + 1, ts =>
    let (ws, after, rest) := nextCommand ts
    let words := ws.filterMap fun (pieces, quoted) => p.expand? pieces quoted
    let ended : Ended :=
      if ws = [] ∨ ¬ runsAfter before p.last then .ok p.last
      else match words with
        | "!" :: command =>
          (runCommand p command).map fun code => if code = 0 then 1 else 0
        | _ => runCommand p words
    match ended with
    | .error status => status
    | .ok last =>
      match after with
      | none => .exited last
      | some t => runTokens { p with last } t fuel rest

/-- Runs a script; one that is not of the language is refused with the code 2. -/
def runScript (p : Parameters) (script : String) : ExitStatus :=
  match tokens? script with
  | none => .exited 2
  | some ts => runTokens p .separator (ts.length + 1) ts

/-! ## Programs -/

def searchPath : List String := ["/usr/local/bin/", "/usr/bin/", "/bin/"]

/-- The name of a program without the directory that it is found in. -/
def baseName (program : String) : String :=
  ((searchPath.find? fun d => d.toList.isPrefixOf program.toList).map fun d =>
    String.ofList (program.toList.drop d.length)).getD program

def directories : List String :=
  ["/", ".", "..", "./", "../", "/tmp", "/tmp/", "/etc", "/etc/", "/usr", "/usr/", "/bin", "/bin/",
   "/usr/bin", "/usr/bin/", "/root", "/home", "/var", "/dev", "/proc", "/sys", "/opt", "/lib"]

/-- Files that every host has and that are no programs. -/
def plainFiles : List String :=
  ["/etc/passwd", "/etc/hosts", "/etc/hostname", "/etc/group", "/dev/null"]

def runProgram (program : String) (arguments : List String) : Except Fault ExitStatus :=
  if (program :: arguments).any fun s => s.toList.contains '\x00' then .error .nulInArgument
  else if program ∈ directories ∨ program ∈ plainFiles then .error .permissionDenied
  else if plainFiles.any fun f => (f ++ "/").toList.isPrefixOf program.toList then
    .error .notADirectory
  else match baseName program, arguments with
    | "sh", [] => .ok (.exited 0)
    | "sh", "-c" :: script :: [] => .ok (runScript ⟨"sh", [], 0⟩ script)
    | "sh", "-c" :: script :: name :: rest => .ok (runScript ⟨name, rest, 0⟩ script)
    | "sh", _ => .ok (.exited 2)
    | "test", _ => .ok (.exited (testCode arguments))
    | "[", _ =>
      .ok (.exited (if arguments.getLast? = some "]" then testCode arguments.dropLast else 2))
    | "cat", _ => .ok (.exited (if arguments = [] then 0 else 1))
    | "false", _ => .ok (.exited 1)
    | name, _ =>
      if name ∈ ["true", "echo", "printf"] then .ok (.exited 0) else .error .notFound

/-- The host, which has nothing to remember. -/
def programs : Programs Unit where
  run _ program arguments := (runProgram program arguments, ())

end SignalActuator.Host.Shell
