/-
  Association commands — running a program that associates a link.

  In each argument of a template `{ssid}` is filled in first, and `{password}` in
  the result.
-/
import SignalActuator.Link.Event

namespace SignalActuator.Link.Association

/-- The text with every occurrence of a pattern replaced, from left to right;
    `skip` characters belong to an occurrence that is replaced already. -/
def replaceFrom (pattern replacement : List Char) : Nat → List Char → List Char
  | _, [] => []
  | skip + 1, _ :: cs => replaceFrom pattern replacement skip cs
  | 0, c :: cs =>
    if pattern.isPrefixOf (c :: cs) then
      replacement ++ replaceFrom pattern replacement (pattern.length - 1) cs
    else c :: replaceFrom pattern replacement 0 cs

def replaceAll (pattern replacement text : String) : String :=
  String.ofList (replaceFrom pattern.toList replacement.toList 0 text.toList)

def ssidPlaceholder : String := "\x7bssid\x7d"

def passwordPlaceholder : String := "\x7bpassword\x7d"

def fill (c : Credentials) (argument : String) : String :=
  replaceAll passwordPlaceholder c.password (replaceAll ssidPlaceholder c.ssid argument)

def argv (template : List String) (c : Credentials) : List String :=
  template.map (fill c)

end SignalActuator.Link.Association
