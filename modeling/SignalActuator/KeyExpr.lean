/-
  Key-expressions — the names of signals on the bus.

  A key-expression is a path of levels separated by `/`.  A provider serves one
  concrete signal, so that neither a wildcard nor an empty level is allowed.
-/
namespace SignalActuator.KeyExpr

inductive Error where
  | empty
  /-- The path holds a `+`, `#` or `*`. -/
  | wildcard (path : String)
  /-- Two separators meet, or one stands at an end. -/
  | emptyLevel (path : String)
  deriving DecidableEq, Repr

def Error.message : Error → String
  | .empty => "Key-expression cannot be empty"
  | .wildcard p => "Key-expression '" ++ p ++ "' contains a wildcard"
  | .emptyLevel p => "Key-expression '" ++ p ++ "' contains an empty level"

def default : String := "Vehicle/Body/Horn/IsActive"

/-- The characters that stand for more than one level or name. -/
def isWildcard (c : Char) : Bool :=
  c == '+' || c == '#' || c == '*'

/-- The levels of a path: the stretches between separators. -/
def levels : List Char → List (List Char)
  | [] => [[]]
  | c :: cs =>
    if c = '/' then [] :: levels cs
    else match levels cs with
      | l :: ls => (c :: l) :: ls
      | [] => [[c]]

def joinLevels : List (List Char) → List Char
  | [] => []
  | [l] => l
  | l :: ls => l ++ '/' :: joinLevels ls

/-- Whether a text names a concrete signal.  Emptiness is tested before
    wildcards, and these before empty levels. -/
def validate (path : String) : Except Error Unit :=
  if path.toList = [] then .error .empty
  else if path.toList.any isWildcard then .error (.wildcard path)
  else if (levels path.toList).any List.isEmpty then .error (.emptyLevel path)
  else .ok ()

/-- Whether a received path is the declared one.  Paths are concrete, so this
    is equality. -/
def covers (declared received : String) : Bool :=
  declared == received

end SignalActuator.KeyExpr
