/-
  TOML documents — the table that the statements of a document denote.

  Headers open a table and settings are put into the table opened last.  A
  table gets one header at most; a header for a table that others only lead
  through takes it to the end of the order.

  * `reach` changes the table at the end of a path of headers;
  * `Draft.add` adds a statement, and `parse?` reads a document.
-/
import SignalActuator.Toml.Reader

namespace SignalActuator.Toml

/-- Changes the entries at the end of a path of headers.  Tables that the path
    leads through are made on the way, and a list of tables is entered at its
    last element. -/
def reach (change : Entries → Option Entries) (es : Entries) : List String → Option Entries
  | [] => change es
  | k :: ks =>
    match es.get? k with
    | none => (reach change [] ks).map fun sub => es.append k (.table .implied sub)
    | some (.table o sub) =>
      if o = .inlined then none
      else (reach change sub ks).map fun sub => es.replace k (.table o sub)
    | some (.array true items) =>
      match items.getLast? with
      | some (.table o sub) =>
        (reach change sub ks).map fun sub =>
          es.replace k (.array true (items.dropLast ++ [.table o sub]))
      | _ => none
    | some _ => none

def openTable (last : String) (es : Entries) : Option Entries :=
  match es.get? last with
  | none => some (es.append last (.table .headed []))
  | some (.table .implied sub) => some ((es.erase last).append last (.table .headed sub))
  | some _ => none

def openElement (last : String) (es : Entries) : Option Entries :=
  match es.get? last with
  | none => some (es.append last (.array true [.table .headed []]))
  | some (.array true items) =>
    some (es.replace last (.array true (items ++ [.table .headed []])))
  | some _ => none

/-- A document under construction: its entries, and the path of the table that
    was opened last. -/
structure Draft where
  entries : Entries := []
  path : List String := []

namespace Draft

def add (d : Draft) : Statement → Option Draft
  | .setting path last v =>
    (reach (insertLine · path last v) d.entries d.path).map fun es => { d with entries := es }
  | .section path last =>
    (reach (openTable last) d.entries path).map fun es => ⟨es, path ++ [last]⟩
  | .element path last =>
    (reach (openElement last) d.entries path).map fun es => ⟨es, path ++ [last]⟩

end Draft

/-- The entries of a document, or nothing for a text that is no document. -/
def parse? (text : String) : Option Entries := do
  let draft ← (← statements? text).foldlM Draft.add {}
  return draft.entries

end SignalActuator.Toml
