/-
  TOML numbers and moments — integers, floating-point numbers, dates and times.

  A text that begins like a date or a time is one, or it is nothing: readers
  commit themselves at the first `-` or `:` behind the digits.

  * `moment` reads a date, a time, or both;
  * `number?` reads an integer of 64 bits or a floating-point number.
-/
import SignalActuator.Toml.Strings
import SignalActuator.Toml.Value

namespace SignalActuator.Toml

/-! ## Digits -/

/-- The value of a list of digits in a base. -/
def digitsValue (base : Nat) (ds : List Char) : Nat :=
  ds.foldl (fun n c => n * base + (hexDigit? c).getD 0) 0

def isDigitOf (base : Nat) (c : Char) : Bool :=
  match hexDigit? c with
  | some d => d < base
  | none => false

/-- The digits of a run that has begun, without the underscores; an underscore
    stands between two digits. -/
def digitTail (base : Nat) : Reader (List Char)
  | [] => some ([], [])
  | '_' :: c :: cs => if isDigitOf base c then before c (digitTail base cs) else none
  | c :: cs =>
    if c = '_' then none
    else if isDigitOf base c then before c (digitTail base cs)
    else some ([], c :: cs)

def digitRun (base : Nat) : Reader (List Char)
  | c :: cs => if isDigitOf base c then before c (digitTail base cs) else none
  | [] => none

/-- The digits of a decimal integer: a zero stands alone. -/
def decimalRun : Reader (List Char)
  | '0' :: cs => some (['0'], cs)
  | cs => digitRun 10 cs

/-! ## Moments -/

/-- What a committed reader says: it is not its form, it is and is broken, or it
    ends before the rest. -/
inductive Attempt where
  | other
  | broken
  | complete (rest : List Char)

def twoDigits (low high : Nat) : List Char → Option (Nat × List Char)
  | a :: b :: cs =>
    let n := digitsValue 10 [a, b]
    if isDigitOf 10 a && isDigitOf 10 b && low ≤ n && n ≤ high then some (n, cs) else none
  | _ => none

/-- The text after a fraction of a second, if there is one. -/
def skipFraction : List Char → List Char
  | '.' :: c :: cs => if isDigitOf 10 c then cs.dropWhile (isDigitOf 10) else '.' :: c :: cs
  | cs => cs

/-- A time of day; its seconds may be the sixtieth. -/
def timeOfDay (cs : List Char) : Attempt :=
  match twoDigits 0 23 cs with
  | some (_, ':' :: cs) =>
    match twoDigits 0 59 cs with
    | some (_, ':' :: cs) =>
      match twoDigits 0 60 cs with
      | some (_, cs) => .complete (skipFraction cs)
      | none => .broken
    | _ => .broken
  | _ => .other

def offset : List Char → Attempt
  | 'Z' :: cs | 'z' :: cs => .complete cs
  | '+' :: cs | '-' :: cs =>
    match twoDigits 0 23 cs with
    | some (_, ':' :: cs) =>
      match twoDigits 0 59 cs with
      | some (_, cs) => .complete cs
      | none => .broken
    | _ => .broken
  | _ => .other

def daysIn (year month : Nat) : Nat :=
  if month = 2 then
    if year % 4 = 0 ∧ (year % 100 ≠ 0 ∨ year % 400 = 0) then 29 else 28
  else if month ∈ [4, 6, 9, 11] then 30 else 31

def date : List Char → Attempt
  | y₁ :: y₂ :: y₃ :: y₄ :: '-' :: cs =>
    if [y₁, y₂, y₃, y₄].all (isDigitOf 10) then
      match twoDigits 1 12 cs with
      | some (month, '-' :: cs) =>
        match twoDigits 1 31 cs with
        | some (day, cs) =>
          if day ≤ daysIn (digitsValue 10 [y₁, y₂, y₃, y₄]) month then .complete cs else .broken
        | none => .broken
      | _ => .broken
    else .other
  | _ => .other

def afterOffset (cs : List Char) : Attempt :=
  match offset cs with
  | .other => .complete cs
  | a => a

/-- A date with or without a time behind it, or a time alone. -/
def moment (cs : List Char) : Attempt :=
  match date cs with
  | .complete rest =>
    match rest with
    | c :: after =>
      if c = 'T' ∨ c = 't' ∨ c = ' ' then
        match timeOfDay after with
        | .complete rest => afterOffset rest
        | .broken => .broken
        | .other => .complete rest
      else .complete rest
    | [] => .complete []
  | .broken => .broken
  | .other => timeOfDay cs

/-! ## Numbers -/

/-- A sign in front of a number, if there is one: whether it is a minus. -/
def sign : List Char → Bool × List Char
  | '-' :: cs => (true, cs)
  | '+' :: cs => (false, cs)
  | cs => (false, cs)

/-- The integer with a sign and a magnitude, if it has 64 bits. -/
def integer? (negative : Bool) (n : Nat) : Option Value :=
  if negative then (if n ≤ Nat.pow 2 63 then some (.integer (-(n : Int))) else none)
  else if n < Nat.pow 2 63 then some (.integer n) else none

/-- The floating-point number with the given digits.  A number above every other
    is refused, one below every other is not. -/
def float? (negative : Bool) (digits : List Char) (e : Int) : Option Value :=
  let x := Binary64.ofDecimal negative (digitsValue 10 digits) e
  if x = .infinite false then none else some (.float x)

def exponent? : Reader Int
  | e :: cs => do
    if e = 'e' ∨ e = 'E' then
      let (negative, cs) := sign cs
      let (ds, cs) ← digitRun 10 cs
      let n : Int := digitsValue 10 ds
      return (if negative then -n else n, cs)
    else none
  | [] => none

def hasExponent : List Char → Bool
  | c :: _ => c == 'e' || c == 'E'
  | [] => false

def decimal? (negative : Bool) : Reader Value := fun cs => do
  let (whole, cs) ← decimalRun cs
  match cs with
  | '.' :: cs =>
    let (fraction, cs) ← digitRun 10 cs
    let (e, cs) ← if hasExponent cs then exponent? cs else some (0, cs)
    return (← float? negative (whole ++ fraction) (e - fraction.length), cs)
  | cs =>
    if hasExponent cs then
      let (e, cs) ← exponent? cs
      return (← float? negative whole e, cs)
    else return (← integer? negative (digitsValue 10 whole), cs)

/-- An integer in a base other than ten. -/
def based? (base : Nat) : Reader Value := fun cs => do
  let (ds, cs) ← digitRun base cs
  return (← integer? false (digitsValue base ds), cs)

def number? (cs : List Char) : Option (Value × List Char) :=
  match cs with
  | '0' :: 'x' :: cs => based? 16 cs
  | '0' :: 'o' :: cs => based? 8 cs
  | '0' :: 'b' :: cs => based? 2 cs
  | _ =>
    match sign cs with
    | (negative, 'i' :: 'n' :: 'f' :: rest) => some (.float (.infinite negative), rest)
    | (_, 'n' :: 'a' :: 'n' :: rest) => some (.float .nan, rest)
    | (negative, rest) => decimal? negative rest

end SignalActuator.Toml
