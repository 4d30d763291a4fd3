/-
  TOML values — what a document says.

  A table keeps its keys in the order of the document, each key once.  How a
  table came to be decides what may be added to it later on, so that a value
  carries that as well; readers of values pay no attention to it.
-/
import SignalActuator.Number.Binary64

namespace SignalActuator.Toml

inductive Origin where
  /-- It was written between braces, and is complete. -/
  | inlined
  /-- It has a header of its own, or is the document or an element of a list of
      tables. -/
  | headed
  /-- Headers mention tables below it, and it may still get its own. -/
  | implied
  | dotted
  deriving DecidableEq, Repr

inductive Value where
  | string (s : String)
  | integer (n : Int)
  | float (x : Binary64)
  | boolean (b : Bool)
  | moment (text : String)
  /-- `growing` tells a list of tables with headers from one between brackets. -/
  | array (growing : Bool) (items : List Value)
  | table (origin : Origin) (entries : List (String × Value))

abbrev Entries := List (String × Value)

namespace Entries

def get? (es : Entries) (key : String) : Option Value :=
  (es.find? fun e => e.1 == key).map (·.2)

def append (es : Entries) (key : String) (v : Value) : Entries :=
  es ++ [(key, v)]

def replace (es : Entries) (key : String) (v : Value) : Entries :=
  es.map fun e => if e.1 == key then (key, v) else e

def erase (es : Entries) (key : String) : Entries :=
  es.filter fun e => e.1 != key

end Entries

end SignalActuator.Toml
