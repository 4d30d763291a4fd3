/-
  Signals — what a message on the bus asks for.

  Requests and reports travel on the same key-expression.  An attachment of
  each message says which of the two it is, and a provider that tells them
  apart never acts on its own reports.
-/
import SignalActuator.Text.Utf8

namespace SignalActuator.Signal

inductive Kind where
  | currentValue
  | targetValue
  /-- No attachment, or one that is no tag. -/
  | unknown
  deriving DecidableEq, Repr

def currentValueTag : String := "currentValue"

def targetValueTag : String := "targetValue"

namespace Kind

/-- The kind that an attachment stands for.  A tag with anything added or
    missing is no tag. -/
def classify : Option (List UInt8) → Kind
  | none => .unknown
  | some tag =>
    if tag = Utf8.encode currentValueTag then .currentValue
    else if tag = Utf8.encode targetValueTag then .targetValue
    else .unknown

def tag? : Kind → Option String
  | .currentValue => some currentValueTag
  | .targetValue => some targetValueTag
  | .unknown => none

def name (k : Kind) : String :=
  k.tag?.getD "unknown"

end Kind

def valueText (value : Bool) : String :=
  if value then "true" else "false"

def payload (value : Bool) : List UInt8 :=
  Utf8.encode (valueText value)

/-- The value that a request asks for: one of the two payloads, exactly. -/
def command? (bytes : List UInt8) : Option Bool :=
  if bytes = payload true then some true
  else if bytes = payload false then some false
  else none

end SignalActuator.Signal
