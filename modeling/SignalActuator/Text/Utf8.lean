/-
  UTF-8 — texts as bytes, and bytes as texts.

  A decoder walks over the bytes with the scalar under construction as its
  state.  An ill-formed stretch of bytes is one malformed piece per maximal
  prefix of a well-formed sequence (Unicode, Table 3-7), so that a decoded
  text depends only on the bytes and not on how they are cut.
-/
namespace SignalActuator.Utf8

/-! ## Encoding -/

def encode (s : String) : List UInt8 :=
  s.toList.flatMap String.utf8EncodeChar

/-! ## Decoding -/

/-- The state between two bytes: at the start of a scalar, or inside one that
    still needs `left` bytes, the next of them between `lo` and `hi`, with the
    value `acc` of the bytes read so far. -/
inductive State where
  | start
  | inside (left lo hi acc : Nat)
  deriving DecidableEq, Repr

/-- The first byte of a scalar.  The bounds of the second byte exclude overlong
    forms, surrogates and values above U+10FFFF. -/
def lead (b : Nat) : List (Option Char) × State :=
  if b < 0x80 then ([some (Char.ofNat b)], .start)
  else if 0xC2 ≤ b ∧ b ≤ 0xDF then ([], .inside 1 0x80 0xBF (b - 0xC0))
  else if b = 0xE0 then ([], .inside 2 0xA0 0xBF (b - 0xE0))
  else if b = 0xED then ([], .inside 2 0x80 0x9F (b - 0xE0))
  else if 0xE1 ≤ b ∧ b ≤ 0xEF then ([], .inside 2 0x80 0xBF (b - 0xE0))
  else if b = 0xF0 then ([], .inside 3 0x90 0xBF (b - 0xF0))
  else if 0xF1 ≤ b ∧ b ≤ 0xF3 then ([], .inside 3 0x80 0xBF (b - 0xF0))
  else if b = 0xF4 then ([], .inside 3 0x80 0x8F (b - 0xF0))
  else ([none], .start)

/-- One byte: the pieces it completes and the state after it.  A byte that
    cannot continue a scalar ends it as malformed and starts the next one. -/
def step : State → Nat → List (Option Char) × State
  | .start, b => lead b
  | .inside left lo hi acc, b =>
    if lo ≤ b ∧ b ≤ hi then
      let acc := acc * 64 + (b - 0x80)
      if left = 1 then ([some (Char.ofNat acc)], .start)
      else ([], .inside (left - 1) 0x80 0xBF acc)
    else
      let (out, st) := lead b
      (none :: out, st)

/-- The pieces of the bytes read from a state; a scalar cut off by the end is
    malformed. -/
def piecesFrom : State → List UInt8 → List (Option Char)
  | .start, [] => []
  | .inside .., [] => [none]
  | st, b :: bs =>
    let (out, st) := step st b.toNat
    out ++ piecesFrom st bs

/-- The scalars of a byte string, `none` for each malformed piece. -/
def pieces (bs : List UInt8) : List (Option Char) :=
  piecesFrom .start bs

def decode? (bs : List UInt8) : Option String :=
  ((pieces bs).mapM id).map String.ofList

def decodeLossy (bs : List UInt8) : String :=
  String.ofList ((pieces bs).map (·.getD '\uFFFD'))

end SignalActuator.Utf8
