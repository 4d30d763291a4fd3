/-
  TOML documents as statements — values, and the lines that a document is made
  of.

  Values nest in lists and in tables between braces; `depthLimit` bounds how
  deep.

  * `value?` reads a value;
  * `insertAt` puts a value at the end of a path of keys, as the lines of a
    section do and the keys between braces;
  * `statements?` reads a document.
-/
import SignalActuator.Toml.Numbers

namespace SignalActuator.Toml

/-! ## Blank stretches -/

def skipComment : List Char → List Char
  | '#' :: cs => cs.dropWhile isPlain
  | cs => cs

/-- The text after blanks, line breaks and comments, at most `fuel` lines of them. -/
def skipBlankLines : Nat → List Char → List Char
  | 0, cs => cs
  | fuel + 1, cs =>
    let cs := skipBlanks cs
    match lineBreak? (skipComment cs) with
    | some rest => skipBlankLines fuel rest
    | none => cs

def lineEnd? (cs : List Char) : Option (List Char) :=
  match skipComment (skipBlanks cs) with
  | [] => some []
  | cs => lineBreak? cs

/-! ## Tables under construction -/

/-- Puts a value at the end of a path.  Tables that the path leads through are
    made on the way; a table with a header of its own, or one between braces, is
    not entered, and a key is not set twice. -/
def insertAt (origin : Origin) (es : Entries) (last : String) (v : Value) :
    List String → Option Entries
  | [] => if origin ≠ .dotted ∨ (es.get? last).isSome then none else some (es.append last v)
  | k :: ks =>
    match es.get? k with
    | none => (insertAt .dotted [] last v ks).map fun sub => es.append k (.table .dotted sub)
    | some (.table o sub) =>
      if o = .inlined ∨ o = .headed then none
      else (insertAt o sub last v ks).map fun sub => es.replace k (.table o sub)
    | some (.array true items) =>
      match items.getLast? with
      | some (.table o sub) =>
        (insertAt o sub last v ks).map fun sub =>
          es.replace k (.array true (items.dropLast ++ [.table o sub]))
      | _ => none
    | some _ => none

/-- Puts a value at the end of a path that begins at a table's own lines. -/
def insertLine (es : Entries) (path : List String) (last : String) (v : Value) :
    Option Entries :=
  match path with
  | [] => if (es.get? last).isSome then none else some (es.append last v)
  | ks => insertAt .headed es last v ks

/-! ## Values -/

/-- How deep values nest at most. -/
def depthLimit : Nat := 79

/-- Values between brackets, with commas between them, up to the closing bracket;
    at most `fuel` of them. -/
def items? (item : Reader Value) : Nat → Reader (List Value)
  | 0, _ => none
  | fuel + 1, cs =>
    match skipBlankLines (cs.length + 1) cs with
    | ']' :: rest => some ([], rest)
    | cs => do
      let (v, cs) ← item cs
      match skipBlankLines (cs.length + 1) cs with
      | ']' :: rest => return ([v], rest)
      | ',' :: rest =>
        let (vs, rest) ← items? item fuel rest
        return (v :: vs, rest)
      | _ => none

/-- Keys with values between braces, with commas between them, up to the closing
    brace; at most `fuel` of them. -/
def pairs? (item : Reader Value) (es : Entries) : Nat → Reader Entries
  | 0, _ => none
  | fuel + 1, cs => do
    let ((path, last), cs) ← path? cs
    match cs with
    | '=' :: cs =>
      let (v, cs) ← item (skipBlanks cs)
      let es ← insertLine es path last v
      match skipBlanks cs with
      | '}' :: rest => return (es, rest)
      | ',' :: rest => pairs? item es fuel rest
      | _ => none
    | _ => none

/-- A value that is no list and no table. -/
def scalar : Reader Value := fun cs =>
  match cs with
  | '"' :: _ | '\'' :: _ => (string? cs).map fun (s, rest) => (.string (String.ofList s), rest)
  | 't' :: 'r' :: 'u' :: 'e' :: rest => some (.boolean true, rest)
  | 'f' :: 'a' :: 'l' :: 's' :: 'e' :: rest => some (.boolean false, rest)
  | c :: _ =>
    if isDigitOf 10 c ∨ c = '+' ∨ c = '-' ∨ c = 'i' ∨ c = 'n' then
      match moment cs with
      | .complete rest =>
        some (.moment (String.ofList (cs.take (cs.length - rest.length))), rest)
      | .broken => none
      | .other => number? cs
    else none
  | [] => none

/-- A value that nests at most `depth` deep. -/
def value? : Nat → Reader Value
  | 0, cs => scalar cs
  | depth + 1, cs =>
    match cs with
    | '[' :: cs =>
      (items? (value? depth) (cs.length + 1) cs).map fun (vs, rest) => (.array false vs, rest)
    | '{' :: cs =>
      match skipBlanks cs with
      | '}' :: rest => some (.table .inlined [], rest)
      | _ => (pairs? (value? depth) [] (cs.length + 1) cs).map
          fun (es, rest) => (.table .inlined es, rest)
    | cs => scalar cs

/-! ## Statements -/

/-- One line that says something, or one value on several lines. -/
inductive Statement where
  | setting (path : List String) (last : String) (v : Value)
  | section (path : List String) (last : String)
  /-- A header in double brackets. -/
  | element (path : List String) (last : String)

/-- The statement that a text begins with, up to the end of its line. -/
def statement? : Reader Statement
  | '[' :: '[' :: cs => do
    let ((path, last), cs) ← path? cs
    match cs with
    | ']' :: ']' :: cs => return (.element path last, ← lineEnd? cs)
    | _ => none
  | '[' :: cs => do
    let ((path, last), cs) ← path? cs
    match cs with
    | ']' :: cs => return (.section path last, ← lineEnd? cs)
    | _ => none
  | cs => do
    let ((path, last), cs) ← path? cs
    match cs with
    | '=' :: cs =>
      let (v, cs) ← value? depthLimit (skipBlanks cs)
      return (.setting path last v, ← lineEnd? cs)
    | _ => none

def statementsFrom? : Nat → List Char → Option (List Statement)
  | 0, _ => none
  | fuel + 1, cs =>
    match skipComment (skipBlankLines (cs.length + 1) cs) with
    | [] => some []
    | _ => do
      let (s, cs) ← statement? (skipBlankLines (cs.length + 1) cs)
      return s :: (← statementsFrom? fuel cs)

/-- The text after a byte-order mark, if it begins with one. -/
def skipMark : List Char → List Char
  | '\uFEFF' :: cs => cs
  | cs => cs

def statements? (text : String) : Option (List Statement) :=
  let cs := skipMark text.toList
  statementsFrom? (cs.length + 1) cs

end SignalActuator.Toml
