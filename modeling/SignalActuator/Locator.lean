/-
  Locators — the endpoint of the bus, as a text `tcp/<IPv4>:<port>#iface=<name>`.

  The empty locator stands for the default endpoint.  Only the shape of the
  address is checked, so that octets above 255 pass; a port beyond 16 bits has
  the right shape and is refused on its own.

  * `Shape.ofChars?` splits a text of the right shape and `Shape.toChars` puts
    one together;
  * `validate` checks the shape alone, and `parse` the port as well.
-/
namespace SignalActuator

namespace Locator

inductive Error where
  | invalidFormat (text : String)
  /-- The port, with its digits as written, does not fit into 16 bits. -/
  | invalidPort (digits : String)
  deriving DecidableEq, Repr

def Error.message : Error → String
  | .invalidFormat s =>
    "Invalid locator format '" ++ s ++ "', expected 'tcp/<ip>:<port>#iface=<interface>'"
  | .invalidPort d => "Locator port out of range: " ++ d

/-! ## Shape -/

def isDigit (c : Char) : Bool :=
  '0' ≤ c && c ≤ '9'

def isNameChar (c : Char) : Bool :=
  isDigit c || ('a' ≤ c && c ≤ 'z') || ('A' ≤ c && c ≤ 'Z') || c == '_' || c == '-'

/-- The parts of a text that has the shape of a locator. -/
structure Shape where
  host : List Char
  port : List Char
  iface : List Char
  deriving DecidableEq, Repr

def after? : List Char → List Char → Option (List Char)
  | [], cs => some cs
  | _ :: _, [] => none
  | x :: xs, c :: cs => if c = x then after? xs cs else none

/-- One to three digits, as many as there are. -/
def octet? (cs : List Char) : Option (List Char × List Char) :=
  let ds := cs.takeWhile isDigit
  if 1 ≤ ds.length ∧ ds.length ≤ 3 then some (ds, cs.dropWhile isDigit) else none

def octets? : Nat → List Char → Option (List Char × List Char)
  | 0, _ => none
  | 1, cs => octet? cs
  | n + 2, cs => do
    let (o, cs) ← octet? cs
    let cs ← after? ['.'] cs
    let (os, cs) ← octets? (n + 1) cs
    return (o ++ '.' :: os, cs)

def Shape.ofChars? (cs : List Char) : Option Shape := do
  let cs ← after? "tcp/".toList cs
  let (host, cs) ← octets? 4 cs
  let cs ← after? [':'] cs
  let port := cs.takeWhile isDigit
  let iface ← after? "#iface=".toList (cs.dropWhile isDigit)
  if port ≠ [] ∧ iface ≠ [] ∧ iface.all isNameChar then some ⟨host, port, iface⟩ else none

def Shape.toChars (s : Shape) : List Char :=
  "tcp/".toList ++ s.host ++ ':' :: s.port ++ "#iface=".toList ++ s.iface

def value (ds : List Char) : Nat :=
  ds.foldl (fun n c => n * 10 + (c.toNat - '0'.toNat)) 0

end Locator

/-- A locator with its parts; `literal` is the text it was read from. -/
structure Locator where
  literal : String
  host : String
  port : UInt16
  iface : String
  deriving DecidableEq, Repr

namespace Locator

/-- Checks the shape of a locator; the empty one passes. -/
def validate (s : String) : Except Error Unit :=
  if s.toList = [] then .ok ()
  else match Shape.ofChars? s.toList with
    | some _ => .ok ()
    | none => .error (.invalidFormat s)

/-- The locator that a text denotes, or nothing for the empty text. -/
def parse (s : String) : Except Error (Option Locator) :=
  if s.toList = [] then .ok none
  else match Shape.ofChars? s.toList with
    | none => .error (.invalidFormat s)
    | some p =>
      if value p.port < 65536 then
        .ok (some ⟨s, String.ofList p.host, UInt16.ofNat (value p.port), String.ofList p.iface⟩)
      else .error (.invalidPort (String.ofList p.port))

end Locator

end SignalActuator
