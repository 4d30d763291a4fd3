/-
  TOML strings and keys — the four quoted forms, bare keys, and paths of keys.

  A reader takes what it stands before off the text and leaves the rest; it
  gives nothing when the text is not of its form.

  * `basicBody` and `literalBody` read up to the closing quote of a line,
    `multilineBasicBody` and `multilineLiteralBody` up to three of them;
  * `string?` reads a quoted value, and `path?` a path of keys.
-/
namespace SignalActuator.Toml

abbrev Reader (α : Type) := List Char → Option (α × List Char)

/-! ## Blanks -/

def isBlank (c : Char) : Bool :=
  c == ' ' || c == '\t'

def skipBlanks (cs : List Char) : List Char :=
  cs.dropWhile isBlank

def lineBreak? : List Char → Option (List Char)
  | '\n' :: cs => some cs
  | '\r' :: '\n' :: cs => some cs
  | _ => none

/-- A character of a comment or of a literal string, quotes aside. -/
def isPlain (c : Char) : Bool :=
  c == '\t' || (0x20 ≤ c.toNat && c.toNat != 0x7F)

def skipLines : List Char → List Char
  | '\r' :: '\n' :: cs => skipLines cs
  | c :: cs => if isBlank c || c == '\n' then skipLines cs else c :: cs
  | [] => []

/-! ## Escapes -/

def hexDigit? (c : Char) : Option Nat :=
  if '0' ≤ c ∧ c ≤ '9' then some (c.toNat - '0'.toNat)
  else if 'a' ≤ c ∧ c ≤ 'f' then some (c.toNat - 'a'.toNat + 10)
  else if 'A' ≤ c ∧ c ≤ 'F' then some (c.toNat - 'A'.toNat + 10)
  else none

/-- The character whose number has the given hexadecimal digits. -/
def scalar? (digits : List Char) : Option Char := do
  let n ← digits.foldlM (fun n c => (hexDigit? c).map (n * 16 + ·)) 0
  if n.isValidChar then some (Char.ofNat n) else none

/-- The character that an escape stands for; the text is what follows the
    backslash. -/
def escape? : Reader Char
  | 'b' :: cs => some ('\x08', cs)
  | 't' :: cs => some ('\t', cs)
  | 'n' :: cs => some ('\n', cs)
  | 'f' :: cs => some ('\x0c', cs)
  | 'r' :: cs => some ('\r', cs)
  | '"' :: cs => some ('"', cs)
  | '\\' :: cs => some ('\\', cs)
  | 'u' :: d₁ :: d₂ :: d₃ :: d₄ :: cs => (scalar? [d₁, d₂, d₃, d₄]).map (·, cs)
  | 'U' :: d₁ :: d₂ :: d₃ :: d₄ :: d₅ :: d₆ :: d₇ :: d₈ :: cs =>
    (scalar? [d₁, d₂, d₃, d₄, d₅, d₆, d₇, d₈]).map (·, cs)
  | _ => none

theorem length_of_escape? {cs rest : List Char} {c : Char} (h : escape? cs = some (c, rest)) :
    rest.length < cs.length := by
  unfold escape? at h
  split at h <;> simp_all [Option.map_eq_some_iff] <;> grind

theorem length_skipLines_le (cs : List Char) : (skipLines cs).length ≤ cs.length := by
  fun_induction skipLines cs <;> grind

theorem length_skipBlanks_le (cs : List Char) : (skipBlanks cs).length ≤ cs.length :=
  (List.dropWhile_suffix _).length_le

theorem length_of_lineBreak? {cs rest : List Char} (h : lineBreak? cs = some rest) :
    rest.length < cs.length := by
  unfold lineBreak? at h
  split at h <;> grind

/-! ## Strings -/

/-- A character that stands for itself in a string with escapes. -/
def isBasic (c : Char) : Bool :=
  isPlain c && c != '"' && c != '\\'

/-- A character of a string without escapes. -/
def isLiteral (c : Char) : Bool :=
  isPlain c && c != '\''

/-- Puts a character before what a reader took. -/
def before (c : Char) (r : Option (List Char × List Char)) : Option (List Char × List Char) :=
  r.map fun (s, rest) => (c :: s, rest)

/-- A string with escapes on one line, up to its closing quote. -/
def basicBody : Reader (List Char)
  | [] => none
  | '"' :: cs => some ([], cs)
  | '\\' :: cs =>
    match h : escape? cs with
    | some (c, rest) =>
      have := length_of_escape? h
      before c (basicBody rest)
    | none => none
  | c :: cs => if isBasic c then before c (basicBody cs) else none
termination_by cs => cs.length

/-- A string with escapes on several lines, up to its closing quotes.  Up to two
    quotes right before those belong to it; a backslash at the end of a line
    swallows blanks and line breaks. -/
def multilineBasicBody : Reader (List Char)
  | '"' :: '"' :: '"' :: '"' :: '"' :: cs => some (['"', '"'], cs)
  | '"' :: '"' :: '"' :: '"' :: cs => some (['"'], cs)
  | '"' :: '"' :: '"' :: cs => some ([], cs)
  | '"' :: cs => before '"' (multilineBasicBody cs)
  | '\\' :: cs =>
    match hb : lineBreak? (skipBlanks cs) with
    | some rest =>
      have := length_of_lineBreak? hb
      have := length_skipBlanks_le cs
      have := length_skipLines_le rest
      multilineBasicBody (skipLines rest)
    | none =>
      match h : escape? cs with
      | some (c, rest) =>
        have := length_of_escape? h
        before c (multilineBasicBody rest)
      | none => none
  | '\r' :: '\n' :: cs => before '\n' (multilineBasicBody cs)
  | c :: cs => if isBasic c || c == '\n' then before c (multilineBasicBody cs) else none
  | [] => none
termination_by cs => cs.length

/-- A string without escapes on one line, up to its closing quote. -/
def literalBody : Reader (List Char)
  | [] => none
  | '\'' :: cs => some ([], cs)
  | c :: cs => if isLiteral c then before c (literalBody cs) else none

/-- A string without escapes on several lines, up to its closing quotes. -/
def multilineLiteralBody : Reader (List Char)
  | '\'' :: '\'' :: '\'' :: '\'' :: '\'' :: cs => some (['\'', '\''], cs)
  | '\'' :: '\'' :: '\'' :: '\'' :: cs => some (['\''], cs)
  | '\'' :: '\'' :: '\'' :: cs => some ([], cs)
  | '\'' :: cs => before '\'' (multilineLiteralBody cs)
  | '\r' :: '\n' :: cs => before '\n' (multilineLiteralBody cs)
  | c :: cs => if isLiteral c || c == '\n' then before c (multilineLiteralBody cs) else none
  | [] => none

def dropLineBreak (cs : List Char) : List Char :=
  (lineBreak? cs).getD cs

/-- A quoted string in any of the four forms. -/
def string? : Reader (List Char)
  | '"' :: '"' :: '"' :: cs => multilineBasicBody (dropLineBreak cs)
  | '"' :: cs => basicBody cs
  | '\'' :: '\'' :: '\'' :: cs => multilineLiteralBody (dropLineBreak cs)
  | '\'' :: cs => literalBody cs
  | _ => none

/-! ## Keys -/

def isBare (c : Char) : Bool :=
  ('a' ≤ c && c ≤ 'z') || ('A' ≤ c && c ≤ 'Z') || ('0' ≤ c && c ≤ '9') || c == '-' || c == '_'

def key? : Reader String
  | '"' :: cs => (basicBody cs).map fun (s, rest) => (String.ofList s, rest)
  | '\'' :: cs => (literalBody cs).map fun (s, rest) => (String.ofList s, rest)
  | cs =>
    let name := cs.takeWhile isBare
    if name = [] then none else some (String.ofList name, cs.dropWhile isBare)

/-- Keys between dots, with blanks around each; at most `fuel` of them. -/
def keys? : Nat → Reader (List String)
  | 0, _ => none
  | fuel + 1, cs => do
    let (k, cs) ← key? (skipBlanks cs)
    match skipBlanks cs with
    | '.' :: cs =>
      let (ks, cs) ← keys? fuel cs
      return (k :: ks, cs)
    | cs => return ([k], cs)

/-- The least number of keys that make a path too long. -/
def pathLimit : Nat := 80

/-- A path: the keys before the last one, and that. -/
def path? : Reader (List String × String) := fun cs => do
  let (ks, cs) ← keys? (pathLimit - 1) cs
  let last ← ks.getLast?
  return ((ks.dropLast, last), cs)

end SignalActuator.Toml
