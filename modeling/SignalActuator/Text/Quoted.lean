/-
  Quoted text — a text between double quotes on one line, with an escape for
  every character that would not show as itself.  Diagnostics and log fields
  use it for the texts inside of structured values.
-/
import SignalActuator.Text.Unprintable

namespace SignalActuator.Text

def hexDigits (n : Nat) : List Char :=
  Nat.toDigits 16 n

/-- A character inside of a quoted text: the short escapes first, then
    `\u\x7b…\x7d` for the unprintable ones, and all others as themselves. -/
def quoteChar (c : Char) : List Char :=
  if c = '\x00' then ['\\', '0']
  else if c = '\t' then ['\\', 't']
  else if c = '\r' then ['\\', 'r']
  else if c = '\n' then ['\\', 'n']
  else if c = '"' then ['\\', '"']
  else if c = '\\' then ['\\', '\\']
  else if isUnprintable c then ['\\', 'u', '{'] ++ hexDigits c.toNat ++ ['}']
  else [c]

def quote (s : String) : String :=
  String.ofList ('"' :: s.toList.flatMap quoteChar ++ ['"'])

end SignalActuator.Text
