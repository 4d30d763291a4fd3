/-
  Typed values — reading values of expected types out of a document.

  A record is written as a table of its fields, or as a list of them in order.
  The first value that is not of its type decides, in the order of the
  document; keys that the record does not know are passed over.

  * `Mismatch` is why a value was refused, and `Mismatch.reason?` its text;
  * `Shape.read` reads a record whose fields all have a value to begin with.
-/
import SignalActuator.Text.Quoted
import SignalActuator.Toml.Document

namespace SignalActuator.Toml

/-! ## Mismatches -/

/-- Why a value is not of the expected type. -/
inductive Mismatch where
  | missingKey (key : String)
  | wrongType (found expected : String)
  | outOfRange (n : Int) (expected : String)
  /-- A list ends before a field that has no value to begin with. -/
  | tooShort (length : Nat) (expected : String)
  | unknownVariant (name : String) (known : List String)
  | noVariant
  deriving DecidableEq, Repr

def backquoted (s : String) : String :=
  "\x60" ++ s ++ "\x60"

/-- The text of a mismatch; none for a value in the place of a variant. -/
def Mismatch.reason? : Mismatch → Option String
  | .missingKey k => some ("missing field " ++ backquoted k)
  | .wrongType found expected => some ("invalid type: " ++ found ++ ", expected " ++ expected)
  | .outOfRange n expected =>
    some ("invalid value: integer " ++ backquoted (toString n) ++ ", expected " ++ expected)
  | .tooShort n expected => some ("invalid length " ++ toString n ++ ", expected " ++ expected)
  | .unknownVariant name known =>
    some ("unknown variant " ++ backquoted name ++ ", expected " ++
      " or ".intercalate (known.map backquoted))
  | .noVariant => none

def Value.describe : Value → String
  | .string s => "string " ++ Text.quote s
  | .integer n => "integer " ++ backquoted (toString n)
  | .float x => "floating point " ++ backquoted x.toText
  | .boolean b => "boolean " ++ backquoted (if b then "true" else "false")
  | .array _ _ => "sequence"
  | .table _ _ | .moment _ => "map"

/-! ## Single values -/

namespace Value

/-- A text; `expected` is what mismatches call it. -/
def asString (expected : String) : Value → Except Mismatch String
  | .string s => .ok s
  | v => .error (.wrongType v.describe expected)

def asNat (bits : Nat) (expected : String) : Value → Except Mismatch Nat
  | .integer n =>
    if 0 ≤ n ∧ n < Nat.pow 2 bits then .ok n.toNat else .error (.outOfRange n expected)
  | v => .error (.wrongType v.describe expected)

def asStrings : Value → Except Mismatch (List String)
  | .array _ items => items.mapM (asString "a string")
  | v => .error (.wrongType v.describe "a sequence")

def isEmpty : Value → Bool
  | .array _ items => items.isEmpty
  | .table _ es => es.isEmpty
  | _ => false

/-- One of several named variants: by its name, or as a table with its name as
    the only key and nothing in it. -/
def asVariant {α : Type} (known : List (String × α)) (v : Value) : Except Mismatch α :=
  let named (name : String) : Except Mismatch α :=
    match known.find? fun k => k.1 == name with
    | some k => .ok k.2
    | none => .error (.unknownVariant name (known.map (·.1)))
  match v with
  | .string s => named s
  | .table _ [(name, content)] => do
    let a ← named name
    if content.isEmpty then return a else throw .noVariant
  | _ => .error .noVariant

end Value

/-! ## Records -/

/-- A field of a record `ρ`. -/
structure Field (ρ : Type) where
  key : String
  read : Value → ρ → Except Mismatch ρ
  /-- Whether a list of fields may end before this one. -/
  hasDefault : Bool

/-- The form of a record in a document. -/
structure Shape (ρ : Type) where
  /-- What mismatches call the record. -/
  name : String
  fields : List (Field ρ)
  initial : ρ

namespace Shape

variable {ρ : Type}

def expectedList (s : Shape ρ) : String :=
  "struct " ++ s.name ++ " with " ++ toString s.fields.length ++
    (if s.fields.length = 1 then " element" else " elements")

def readEntry (s : Shape ρ) (r : ρ) (e : String × Value) : Except Mismatch ρ :=
  match s.fields.find? fun f => f.key == e.1 with
  | some f => f.read e.2 r
  | none => .ok r

/-- Reads fields from values in order; `index` values are read already. -/
def readItems (s : Shape ρ) : List (Field ρ) → List Value → Nat → ρ → Except Mismatch ρ
  | [], _, _, r => .ok r
  | f :: fs, [], index, r =>
    if f.hasDefault then s.readItems fs [] (index + 1) r
    else .error (.tooShort index s.expectedList)
  | f :: fs, v :: vs, index, r => do
    let r ← f.read v r
    s.readItems fs vs (index + 1) r

def read (s : Shape ρ) : Value → Except Mismatch ρ
  | .table _ es => es.foldlM s.readEntry s.initial
  | .array _ items => s.readItems s.fields items 0 s.initial
  | .moment _ => .ok s.initial
  | v => .error (.wrongType v.describe ("struct " ++ s.name))

end Shape

end SignalActuator.Toml
