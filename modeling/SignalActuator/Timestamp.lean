/-
  Timestamps — instants in UTC with nanoseconds, read and written as RFC 3339.

  A date is a day of the proleptic Gregorian calendar and carries the proof
  that the calendar has it; a second of 60 is a leap second and is kept.

  * `parse?` reads `YYYY-MM-DDTHH:MM:SS[.f]` with an offset of less than a day
    and shifts the local time to UTC, by at most one day;
  * `toText` writes an instant with the offset `+00:00` and with the fewest of
    0, 3, 6 or 9 digits after the point that lose nothing.
-/
namespace SignalActuator

/-! ## Dates -/

def isLeapYear (y : Int) : Bool :=
  y % 4 == 0 && (y % 100 != 0 || y % 400 == 0)

def daysInMonth (y : Int) (m : Nat) : Nat :=
  if m = 2 then (if isLeapYear y then 29 else 28)
  else if m = 4 ∨ m = 6 ∨ m = 9 ∨ m = 11 then 30
  else 31

theorem daysInMonth_pos (y : Int) (m : Nat) : 1 ≤ daysInMonth y m := by
  unfold daysInMonth
  repeat' split
  all_goals omega

structure Date where
  year : Int
  month : Nat
  day : Nat
  month_valid : 1 ≤ month ∧ month ≤ 12
  day_valid : 1 ≤ day ∧ day ≤ daysInMonth year month
  deriving DecidableEq

namespace Date

/-- The day with these numbers, if the calendar has it. -/
def ofNumbers? (y : Int) (m d : Nat) : Option Date :=
  if hm : 1 ≤ m ∧ m ≤ 12 then
    if hd : 1 ≤ d ∧ d ≤ daysInMonth y m then some ⟨y, m, d, hm, hd⟩ else none
  else none

def next (x : Date) : Date :=
  if hd : x.day < daysInMonth x.year x.month then
    { x with day := x.day + 1, day_valid := ⟨by omega, hd⟩ }
  else if hm : x.month < 12 then
    { year := x.year, month := x.month + 1, day := 1,
      month_valid := ⟨by omega, hm⟩, day_valid := ⟨by omega, daysInMonth_pos _ _⟩ }
  else
    { year := x.year + 1, month := 1, day := 1,
      month_valid := by omega, day_valid := ⟨by omega, daysInMonth_pos _ _⟩ }

def prev (x : Date) : Date :=
  if hd : 1 < x.day then
    { x with day := x.day - 1,
             day_valid := ⟨by omega, by have := x.day_valid; omega⟩ }
  else if hm : 1 < x.month then
    { year := x.year, month := x.month - 1, day := daysInMonth x.year (x.month - 1),
      month_valid := by have := x.month_valid; omega,
      day_valid := ⟨daysInMonth_pos _ _, by omega⟩ }
  else
    { year := x.year - 1, month := 12, day := daysInMonth (x.year - 1) 12,
      month_valid := by omega, day_valid := ⟨daysInMonth_pos _ _, by omega⟩ }

end Date

/-! ## Times of day -/

/-- A time of day; a second of 60 is a leap second. -/
structure Clock where
  hour : Nat
  minute : Nat
  second : Nat
  nano : Nat
  hour_lt : hour < 24
  minute_lt : minute < 60
  second_le : second ≤ 60
  nano_lt : nano < 1000000000
  deriving DecidableEq

def Clock.ofNumbers? (h m s n : Nat) : Option Clock :=
  if hv : h < 24 ∧ m < 60 ∧ s ≤ 60 ∧ n < 1000000000 then
    some ⟨h, m, s, n, hv.1, hv.2.1, hv.2.2.1, hv.2.2.2⟩
  else none

/-- An instant, as its date and time of day in UTC. -/
structure Timestamp where
  date : Date
  clock : Clock
  deriving DecidableEq

namespace Timestamp

/-- The instant with the given local date and time at `offset` minutes east of
    UTC, for an offset of less than a day.  Only hours and minutes move, so that
    a leap second stays one. -/
def ofLocal (d : Date) (c : Clock) (offset : Int) : Timestamp :=
  let minutes := (c.hour * 60 + c.minute : Int) - offset
  let date := if minutes < 0 then d.prev else if 1440 ≤ minutes then d.next else d
  let wrapped := (minutes % 1440).toNat
  have : wrapped < 1440 := by omega
  { date, clock := { c with hour := wrapped / 60, minute := wrapped % 60,
                            hour_lt := by omega, minute_lt := by omega } }

/-! ## Reading -/

def digit? (c : Char) : Option Nat :=
  if '0' ≤ c ∧ c ≤ '9' then some (c.toNat - '0'.toNat) else none

/-- The number that a list of digits denotes, on top of `acc`; none if one of
    them is no digit. -/
def number? (acc : Nat) : List Char → Option Nat
  | [] => some acc
  | c :: cs => do number? (acc * 10 + (← digit? c)) cs

/-- Exactly `w` digits at the front. -/
def takeNumber? (w : Nat) (cs : List Char) : Option (Nat × List Char) :=
  if cs.length < w then none
  else (number? 0 (cs.take w)).map fun n => (n, cs.drop w)

def takeChar? (x : Char) : List Char → Option (List Char)
  | c :: cs => if c = x then some cs else none
  | [] => none

/-- The fraction of a second after a point: at least one digit, of which the
    first nine count. -/
def takeFraction? : List Char → Option (Nat × List Char)
  | '.' :: cs =>
    let ds := cs.takeWhile fun c => (digit? c).isSome
    if ds.isEmpty then none
    else (number? 0 (ds.take 9)).map fun n =>
      (n * Nat.pow 10 (9 - (ds.take 9).length), cs.drop ds.length)
  | cs => some (0, cs)

/-- The minutes east of UTC, to the end of the text: `Z`, or a sign, two digits
    of hours up to 23 and two of minutes. -/
def offset? : List Char → Option Int
  | ['Z'] | ['z'] => some 0
  | sign :: cs => do
    let negative ← if sign = '+' then some false
      else if sign = '-' ∨ sign = '\u2212' then some true else none
    let (h, cs) ← takeNumber? 2 cs
    let cs ← takeChar? ':' cs
    let (m, cs) ← takeNumber? 2 cs
    if cs = [] ∧ h < 24 ∧ m < 60 then
      let minutes : Int := h * 60 + m
      some (if negative then -minutes else minutes)
    else none
  | [] => none

def parseChars? (cs : List Char) : Option Timestamp := do
  let (y, cs) ← takeNumber? 4 cs
  let cs ← takeChar? '-' cs
  let (mo, cs) ← takeNumber? 2 cs
  let cs ← takeChar? '-' cs
  let (d, cs) ← takeNumber? 2 cs
  let cs ← (takeChar? 'T' cs).orElse fun _ => (takeChar? 't' cs).orElse fun _ => takeChar? ' ' cs
  let (h, cs) ← takeNumber? 2 cs
  let cs ← takeChar? ':' cs
  let (mi, cs) ← takeNumber? 2 cs
  let cs ← takeChar? ':' cs
  let (s, cs) ← takeNumber? 2 cs
  let (n, cs) ← takeFraction? cs
  let offset ← offset? cs
  let date ← Date.ofNumbers? y mo d
  let clock ← Clock.ofNumbers? h mi s n
  return ofLocal date clock offset

def parse? (s : String) : Option Timestamp :=
  parseChars? s.toList

/-! ## Writing -/

/-- The last `w` decimal digits of a number. -/
def padded : Nat → Nat → List Char
  | 0, _ => []
  | w + 1, n => padded w (n / 10) ++ [Char.ofNat ('0'.toNat + n % 10)]

/-- A year: four digits, and a sign outside of 0 to 9999. -/
def yearChars (y : Int) : List Char :=
  if 0 ≤ y ∧ y ≤ 9999 then padded 4 y.toNat
  else if y < 0 then
    '-' :: (if y.natAbs ≤ 9999 then padded 4 y.natAbs else Nat.toDigits 10 y.natAbs)
  else '+' :: Nat.toDigits 10 y.natAbs

/-- A fraction of a second, with the fewest of 0, 3, 6 or 9 digits. -/
def fractionChars (n : Nat) : List Char :=
  if n = 0 then []
  else if n % 1000000 = 0 then '.' :: padded 3 (n / 1000000)
  else if n % 1000 = 0 then '.' :: padded 6 (n / 1000)
  else '.' :: padded 9 n

def toChars (t : Timestamp) : List Char :=
  yearChars t.date.year ++ '-' :: padded 2 t.date.month ++ '-' :: padded 2 t.date.day ++
    'T' :: padded 2 t.clock.hour ++ ':' :: padded 2 t.clock.minute ++
    ':' :: padded 2 t.clock.second ++ fractionChars t.clock.nano ++
    ['+', '0', '0', ':', '0', '0']

def toText (t : Timestamp) : String :=
  String.ofList t.toChars

end Timestamp

end SignalActuator
