/-
  Writing TOML — strings, lists and sections as lines of a document.

  A string is written in the plainest form that holds it: between double quotes
  if nothing in it has to be escaped, else between single quotes, else on
  several lines, and with escapes only if all that fails.

  * `Style.of` chooses the form of a string and `quoted` writes it;
  * `list` writes a list and `sections` a document.
-/
import SignalActuator.Text.Quoted

namespace SignalActuator.Toml

/-! ## Strings -/

inductive Style where
  | basic
  | literal
  | multilineBasic
  | multilineLiteral
  deriving DecidableEq, Repr

/-- The length of the longest run of a character; `run` and `longest` are those
    of the text before. -/
def longestRunFrom (x : Char) (run longest : Nat) : List Char → Nat
  | [] => longest
  | c :: cs =>
    if c = x then longestRunFrom x (run + 1) (max longest (run + 1)) cs
    else longestRunFrom x 0 longest cs

def longestRun (x : Char) (cs : List Char) : Nat :=
  longestRunFrom x 0 0 cs

/-- A character that every form writes as an escape. -/
def isControl (c : Char) : Bool :=
  (c.toNat < 0x20 && c != '\t' && c != '\n') || c.toNat == 0x7F

def Style.of (cs : List Char) : Style :=
  let control := cs.any isControl
  let backslash := cs.contains '\\'
  let lines := cs.contains '\n'
  let doubles := longestRun '"' cs
  let singles := longestRun '\'' cs
  if !control && !backslash && doubles == 0 && !lines then .basic
  else if !control && singles == 0 && !lines then .literal
  else if !control && !backslash && doubles ≤ 2 then .multilineBasic
  else if !control && singles ≤ 2 then .multilineLiteral
  else if lines then .multilineBasic else .basic

def fourDigits (n : Nat) : List Char :=
  let ds := (Nat.toDigits 16 n).map Char.toUpper
  List.replicate (4 - ds.length) '0' ++ ds

/-- A character of a string with escapes, double quotes aside. -/
def escapeChar (lines : Bool) (c : Char) : List Char :=
  if c = '\x08' then ['\\', 'b']
  else if c = '\t' then ['\\', 't']
  else if c = '\n' then (if lines then ['\n'] else ['\\', 'n'])
  else if c = '\x0c' then ['\\', 'f']
  else if c = '\r' then ['\\', 'r']
  else if c = '\\' then ['\\', '\\']
  else if isControl c then '\\' :: 'u' :: fourDigits c.toNat
  else [c]

/-- The characters of a string with escapes.  Up to `quotes` double quotes in a
    row stand for themselves, and `run` of them precede. -/
def escapeFrom (lines : Bool) (quotes : Nat) (run : Nat) : List Char → List Char
  | [] => []
  | c :: cs =>
    if c = '"' then
      if run < quotes then '"' :: escapeFrom lines quotes (run + 1) cs
      else '\\' :: '"' :: escapeFrom lines quotes 0 cs
    else escapeChar lines c ++ escapeFrom lines quotes 0 cs

/-- A string in a form.  A form of several lines begins on a line of its own if
    the string has a line break. -/
def Style.write (style : Style) (cs : List Char) : List Char :=
  let first := if cs.contains '\n' then ['\n'] else []
  match style with
  | .basic => '"' :: escapeFrom false 0 0 cs ++ ['"']
  | .literal => '\'' :: cs ++ ['\'']
  | .multilineBasic => ['"', '"', '"'] ++ first ++ escapeFrom true 2 0 cs ++ ['"', '"', '"']
  | .multilineLiteral => ['\'', '\'', '\''] ++ first ++ cs ++ ['\'', '\'', '\'']

def quoted (s : String) : String :=
  String.ofList ((Style.of s.toList).write s.toList)

/-! ## Documents -/

/-- A list of values that are written already: on one line if there is at most
    one, else each on its own. -/
def list : List String → String
  | [] => "[]"
  | [v] => "[" ++ v ++ "]"
  | vs => "[\n" ++ String.join (vs.map fun v => "    " ++ v ++ ",\n") ++ "]"

/-- A section: its name, and its keys with values that are written already. -/
abbrev Section := String × List (String × String)

def Section.write (s : Section) : String :=
  "[" ++ s.1 ++ "]\n" ++ String.join (s.2.map fun (k, v) => k ++ " = " ++ v ++ "\n")

def sections (ss : List Section) : String :=
  "\n".intercalate (ss.map Section.write)

end SignalActuator.Toml
