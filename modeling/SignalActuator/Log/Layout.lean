/-
  Log layouts — a record as one line of text.

  * `Record.compact` is for reading: level, message, fields;
  * `Record.json` is for machines: one JSON object.
-/
import SignalActuator.Log.Record
import SignalActuator.Text.Quoted

namespace SignalActuator.Log

/-! ## Compact lines -/

def Value.compact : Value → String
  | .word s => Text.quote s
  | .shown s => s
  | .number n => toString n
  | .flag b => if b then "true" else "false"

def compactFields (fs : Fields) : String :=
  " ".intercalate (fs.map fun (k, v) => k ++ "=" ++ v.compact)

/-- The record as `LEVEL span: message field=value`, with the fields of the span
    at the end. -/
def Record.compact (r : Record) : String :=
  let place := match r.span with
    | some s => s.name ++ ": "
    | none => ""
  let parts := [r.message, compactFields r.fields, compactFields ((r.span.map (·.fields)).getD [])]
  r.level.name ++ " " ++ place ++ " ".intercalate (parts.filter (· ≠ ""))

/-! ## JSON -/

def jsonChar (c : Char) : List Char :=
  if c = '"' then ['\\', '"']
  else if c = '\\' then ['\\', '\\']
  else if c = '\n' then ['\\', 'n']
  else if c = '\r' then ['\\', 'r']
  else if c = '\t' then ['\\', 't']
  else if c = '\x08' then ['\\', 'b']
  else if c = '\x0c' then ['\\', 'f']
  else if c.toNat < 0x20 then
    ['\\', 'u', '0', '0'] ++ (if c.toNat < 0x10 then ['0'] else []) ++ Text.hexDigits c.toNat
  else [c]

def jsonText (s : String) : String :=
  String.ofList ('"' :: s.toList.flatMap jsonChar ++ ['"'])

def Value.json : Value → String
  | .word s | .shown s => jsonText s
  | .number n => toString n
  | .flag b => if b then "true" else "false"

/-- A JSON object with the given members, whose values are JSON already. -/
def jsonObject (members : List (String × String)) : String :=
  "\x7b" ++ ",".intercalate (members.map fun (k, v) => jsonText k ++ ":" ++ v) ++ "\x7d"

def Span.json (s : Span) : String :=
  jsonObject (s.fields.map (fun (k, v) => (k, v.json)) ++ [("name", jsonText s.name)])

/-- The record as an object: level, fields with the message among them, target,
    and the span twice, alone and as the list of open spans. -/
def Record.json (r : Record) : String :=
  let spans := match r.span with
    | some s => [("span", s.json), ("spans", "[" ++ s.json ++ "]")]
    | none => []
  jsonObject
    ([("level", jsonText r.level.name),
      ("fields", jsonObject (("message", jsonText r.message) ::
        r.fields.map fun (k, v) => (k, v.json))),
      ("target", jsonText r.component.target)] ++ spans)

end SignalActuator.Log
