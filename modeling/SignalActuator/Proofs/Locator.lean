/-
  Locators — exactly which texts are locators, and what each of them denotes.

  A locator is `tcp/a.b.c.d:p#iface=n`, where each of `a`, `b`, `c` and `d` is one to
  three digits, `p` is any number of digits but none and `n` is made of letters, digits,
  `_` and `-`.  Nothing stands before or behind that.

  * `Segments` is such a locator in its six segments, and `Segments.text` its text;
    `Segments.text_injective`: a text has one way to be read at most;
  * `ofChars?_eq_some_iff`: the shape of a text is read if and only if the text is that of
    segments, and is theirs;
  * `locators`: what checking and reading a text come to, in every case.
-/
import SignalActuator.Locator
import Mathlib.Data.List.TakeWhile
import Mathlib.Data.Nat.Digits.Defs

namespace SignalActuator.Locator

/-! ## Segments -/

/-- One to three digits. -/
structure IsOctet (o : List Char) : Prop where
  pos : 1 ≤ o.length
  le_three : o.length ≤ 3
  digits : ∀ c ∈ o, c.isDigit = true

/-- A locator in its segments. -/
structure Segments where
  first : List Char
  second : List Char
  third : List Char
  fourth : List Char
  port : List Char
  name : List Char
  octets : IsOctet first ∧ IsOctet second ∧ IsOctet third ∧ IsOctet fourth
  port_ne_nil : port ≠ []
  port_digits : ∀ c ∈ port, c.isDigit = true
  name_ne_nil : name ≠ []
  name_chars : ∀ c ∈ name, c.isAlphanum = true ∨ c = '_' ∨ c = '-'

namespace Segments

def host (g : Segments) : List Char :=
  g.first ++ '.' :: (g.second ++ '.' :: (g.third ++ '.' :: g.fourth))

def chars (g : Segments) : List Char :=
  "tcp/".toList ++ (g.host ++ ':' :: (g.port ++ ("#iface=".toList ++ g.name)))

def text (g : Segments) : String :=
  String.ofList g.chars

/-- The number that the digits of the port denote. -/
def number (g : Segments) : ℕ :=
  Nat.ofDigits 10 (g.port.map fun c => c.toNat - '0'.toNat).reverse

end Segments

/-! ## Characters -/

theorem isDigit_eq (c : Char) : isDigit c = c.isDigit :=
  rfl

theorem isNameChar_iff {c : Char} :
    isNameChar c = true ↔ c.isAlphanum = true ∨ c = '_' ∨ c = '-' := by
  have halpha : c.isAlphanum =
      (decide ('A' ≤ c ∧ c ≤ 'Z') || ('a' ≤ c && c ≤ 'z') || isDigit c) := rfl
  simp only [halpha, isNameChar, Bool.or_eq_true, Bool.and_eq_true, decide_eq_true_eq, beq_iff_eq]
  tauto

/-! ## Reading the segments -/

theorem after?_eq_some_iff {xs cs rest : List Char} :
    after? xs cs = some rest ↔ cs = xs ++ rest := by
  induction xs generalizing cs with
  | nil => simp [after?, eq_comm]
  | cons x xs ih =>
    cases cs with
    | nil => simp [after?]
    | cons c cs => by_cases h : c = x <;> simp [after?, h, ih]

/-- The digits that a text begins with are those before the first character that is none. -/
theorem digits_eq_iff {cs ds rest : List Char} :
    cs.takeWhile isDigit = ds ∧ cs.dropWhile isDigit = rest ↔
      cs = ds ++ rest ∧ (∀ c ∈ ds, c.isDigit = true) ∧ ∀ c ∈ rest.head?, c.isDigit = false := by
  constructor
  · rintro ⟨rfl, rfl⟩
    refine ⟨List.takeWhile_append_dropWhile.symm, fun c hc => List.mem_takeWhile_imp hc, ?_⟩
    intro c hc
    have hnot := List.head?_dropWhile_not isDigit cs
    rw [Option.mem_def.1 hc] at hnot
    simpa [isDigit_eq] using hnot
  · rintro ⟨rfl, hds, hrest⟩
    have hds' : ∀ c ∈ ds, isDigit c = true := hds
    rw [List.takeWhile_append_of_pos hds', List.dropWhile_append_of_pos hds']
    cases rest with
    | nil => simp
    | cons c rest =>
      have hc : isDigit c = false := hrest c rfl
      simp [hc]

theorem octet?_eq_some_iff {cs o rest : List Char} :
    octet? cs = some (o, rest) ↔
      IsOctet o ∧ cs = o ++ rest ∧ ∀ c ∈ rest.head?, c.isDigit = false := by
  constructor
  · intro h
    simp only [octet?, Option.ite_none_right_eq_some, Option.some.injEq, Prod.mk.injEq] at h
    obtain ⟨⟨hpos, hle⟩, ho, hrest⟩ := h
    obtain ⟨hcs, hdigits, hstop⟩ := digits_eq_iff.1 ⟨ho, hrest⟩
    subst ho
    exact ⟨⟨hpos, hle, hdigits⟩, hcs, hstop⟩
  · rintro ⟨ho, hcs, hstop⟩
    obtain ⟨htake, hdrop⟩ := digits_eq_iff.2 ⟨hcs, ho.digits, hstop⟩
    simp only [octet?, htake, hdrop]
    exact if_pos ⟨ho.pos, ho.le_three⟩

theorem octets?_eq_some_iff {n : ℕ} {cs host rest : List Char} :
    octets? (n + 2) cs = some (host, rest) ↔
      ∃ o hs more, IsOctet o ∧ host = o ++ '.' :: hs ∧ cs = o ++ '.' :: more ∧
        octets? (n + 1) more = some (hs, rest) := by
  simp only [octets?, Option.bind_eq_bind, Option.bind_eq_some_iff, Prod.exists,
    octet?_eq_some_iff, after?_eq_some_iff]
  constructor
  · rintro ⟨o, _, ⟨ho, rfl, -⟩, more, rfl, hs, rest', hmore, hhost⟩
    obtain ⟨rfl, rfl⟩ := Prod.mk.inj (Option.some.inj hhost)
    exact ⟨o, hs, more, ho, rfl, rfl, hmore⟩
  · rintro ⟨o, hs, more, ho, rfl, rfl, hmore⟩
    exact ⟨o, '.' :: more, ⟨ho, rfl, by simp⟩, more, rfl, hs, rest, hmore, rfl⟩

/-- **The shape of a locator.**  It is that of its segments, and a text that has none is
    not made of segments. -/
theorem ofChars?_eq_some_iff {cs : List Char} {p : Shape} :
    Shape.ofChars? cs = some p ↔ ∃ g : Segments, cs = g.chars ∧ p = ⟨g.host, g.port, g.name⟩ := by
  simp only [Shape.ofChars?, Option.bind_eq_bind, Option.bind_eq_some_iff, Prod.exists,
    after?_eq_some_iff, octets?_eq_some_iff]
  constructor
  · rintro ⟨_, rfl, host, _, ⟨first, _, _, hfirst, rfl, rfl, second, _, _, hsecond, rfl, rfl,
      third, fourth, _, hthird, rfl, rfl, hlast⟩, more, rfl, name, hname, hshape⟩
    obtain ⟨hfourth, rfl, -⟩ := octet?_eq_some_iff.1 hlast
    obtain ⟨hmore, hdigits, -⟩ := digits_eq_iff.1 ⟨rfl, hname⟩
    simp only [Option.ite_none_right_eq_some, Option.some.injEq] at hshape
    obtain ⟨⟨hport, hne, hall⟩, rfl⟩ := hshape
    refine ⟨⟨first, second, third, fourth, _, name, ⟨hfirst, hsecond, hthird, hfourth⟩, hport,
      hdigits, hne, fun c hc => isNameChar_iff.1 (List.all_eq_true.1 hall c hc)⟩, ?_, rfl⟩
    simp only [Segments.chars, Segments.host, List.append_assoc, List.cons_append, List.nil_append]
    rw [← hmore]
  · rintro ⟨g, rfl, rfl⟩
    obtain ⟨hfirst, hsecond, hthird, hfourth⟩ := g.octets
    have hport : ∀ c ∈ ("#iface=".toList ++ g.name).head?, c.isDigit = false := by simp
    obtain ⟨htake, hdrop⟩ := digits_eq_iff.2 ⟨rfl, g.port_digits, hport⟩
    have hlast : octets? 1 (g.fourth ++ ':' :: (g.port ++ ("#iface=".toList ++ g.name))) =
        some (g.fourth, ':' :: (g.port ++ ("#iface=".toList ++ g.name))) :=
      octet?_eq_some_iff.2 ⟨hfourth, rfl, by simp⟩
    refine ⟨_, rfl, g.host, _, ⟨g.first, _, _, hfirst, rfl, ?_, g.second, _, _, hsecond, rfl, rfl,
      g.third, _, _, hthird, rfl, rfl, hlast⟩, g.port ++ ("#iface=".toList ++ g.name), rfl,
      g.name, hdrop, ?_⟩
    · simp only [Segments.host, List.append_assoc, List.cons_append]
    · rw [htake]
      exact if_pos ⟨g.port_ne_nil, g.name_ne_nil,
        List.all_eq_true.2 fun c hc => isNameChar_iff.2 (g.name_chars c hc)⟩

namespace Segments

theorem octet_unique {o o' rest rest' : List Char} (ho : IsOctet o) (ho' : IsOctet o')
    (h : o ++ '.' :: rest = o' ++ '.' :: rest') : o = o' ∧ rest = rest' := by
  have hread : octet? (o ++ '.' :: rest) = some (o, '.' :: rest) :=
    octet?_eq_some_iff.2 ⟨ho, rfl, by simp⟩
  have hread' : octet? (o' ++ '.' :: rest') = some (o', '.' :: rest') :=
    octet?_eq_some_iff.2 ⟨ho', rfl, by simp⟩
  rw [h, hread'] at hread
  simpa [eq_comm] using hread

/-- **A locator is read in one way.** -/
theorem text_injective : Function.Injective text := by
  intro g g' h
  have hchars : g.chars = g'.chars := String.ofList_injective h
  have hread := ofChars?_eq_some_iff.2 ⟨g, rfl, rfl⟩
  rw [hchars, ofChars?_eq_some_iff.2 ⟨g', rfl, rfl⟩] at hread
  obtain ⟨hhost, hport, hname⟩ := Shape.mk.inj (Option.some.inj hread)
  obtain ⟨hfirst, hsecond, hthird, -⟩ := g.octets
  obtain ⟨hfirst', hsecond', hthird', -⟩ := g'.octets
  obtain ⟨h₁, hhost⟩ := octet_unique hfirst' hfirst hhost
  obtain ⟨h₂, hhost⟩ := octet_unique hsecond' hsecond hhost
  obtain ⟨h₃, h₄⟩ := octet_unique hthird' hthird hhost
  cases g
  cases g'
  simp_all

end Segments

/-! ## Ports -/

theorem value_port (g : Segments) : value g.port = g.number := by
  rw [Segments.number, Nat.ofDigits_eq_foldr, List.foldr_reverse, List.foldl_map, value]
  congr
  funext n c
  simp [Nat.add_comm, Nat.mul_comm]

/-! ## Texts -/

theorem text_ne_empty (g : Segments) : g.text ≠ "" := by
  intro h
  have hchars : g.chars = [] := String.ofList_injective h
  simp [Segments.chars] at hchars

theorem ofChars?_text (g : Segments) :
    Shape.ofChars? g.text.toList = some ⟨g.host, g.port, g.name⟩ := by
  rw [Segments.text, String.toList_ofList]
  exact ofChars?_eq_some_iff.2 ⟨g, rfl, rfl⟩

theorem ofChars?_eq_none_iff {s : String} :
    Shape.ofChars? s.toList = none ↔ ∀ g : Segments, s ≠ g.text := by
  constructor
  · rintro h g rfl
    rw [ofChars?_text] at h
    cases h
  · intro h
    rw [Option.eq_none_iff_forall_ne_some]
    intro p hp
    obtain ⟨g, hg, -⟩ := ofChars?_eq_some_iff.1 hp
    refine h g ?_
    rw [Segments.text, ← hg, String.ofList_toList]

theorem text_cases (s : String) :
    s = "" ∨ (∃ g : Segments, s = g.text) ∨ s ≠ "" ∧ ∀ g : Segments, s ≠ g.text := by
  by_cases hs : s = ""
  · exact .inl hs
  · by_cases hg : ∃ g : Segments, s = g.text
    · exact .inr (.inl hg)
    · exact .inr (.inr ⟨hs, fun g h => hg ⟨g, h⟩⟩)

theorem validate_text (g : Segments) : validate g.text = .ok () := by
  have hne : g.text.toList ≠ [] := by simpa using text_ne_empty g
  rw [validate, if_neg hne, ofChars?_text]

theorem parse_text (g : Segments) :
    parse g.text =
      if g.number ≤ 65535 then
        .ok (some ⟨g.text, String.ofList g.host, .ofNat g.number, String.ofList g.name⟩)
      else .error (.invalidPort (String.ofList g.port)) := by
  have hne : g.text.toList ≠ [] := by simpa using text_ne_empty g
  simp only [parse, if_neg hne, ofChars?_text, value_port]
  exact if_congr Nat.lt_succ_iff rfl rfl

theorem refuses {s : String} (hs : s ≠ "") (h : ∀ g : Segments, s ≠ g.text) :
    validate s = .error (.invalidFormat s) ∧ parse s = .error (.invalidFormat s) := by
  have hne : s.toList ≠ [] := by simpa using hs
  have hnone := ofChars?_eq_none_iff.2 h
  constructor
  · rw [validate, if_neg hne, hnone]
  · rw [parse, if_neg hne, hnone]

/-- **Locators.**  A text passes the check if and only if it is empty or made of segments,
    in one way; every other text is refused as it stands.  Reading gives nothing for the
    empty text and for no other.  It gives a locator for the text of segments whose port
    denotes at most 65535, with any number of zeros in front, and the locator has their
    address, port and name and shows as the text it was read from.  A port beyond that is
    refused with its digits as written, and every text that is neither empty nor made of
    segments as it stands.  So reading refuses what passes the check exactly for its port. -/
theorem locators (s : String) :
    (validate s = .ok () ↔ s = "" ∨ ∃ g : Segments, s = g.text) ∧
    (∀ e, validate s = .error e ↔
      e = .invalidFormat s ∧ s ≠ "" ∧ ∀ g : Segments, s ≠ g.text) ∧
    (∀ g g' : Segments, s = g.text → s = g'.text → g = g') ∧
    (parse s = .ok none ↔ s = "") ∧
    (∀ l, parse s = .ok (some l) ↔ ∃ g : Segments, s = g.text ∧ g.number ≤ 65535 ∧
      l.host = String.ofList g.host ∧ l.port.toNat = g.number ∧
      l.iface = String.ofList g.name ∧ l.literal = s) ∧
    (∀ d, parse s = .error (.invalidPort d) ↔ ∃ g : Segments, s = g.text ∧
      65535 < g.number ∧ d = String.ofList g.port) ∧
    (∀ t, parse s = .error (.invalidFormat t) ↔
      t = s ∧ s ≠ "" ∧ ∀ g : Segments, s ≠ g.text) ∧
    validate s = match parse s with
      | .error (.invalidPort _) => .ok ()
      | .error e => .error e
      | .ok _ => .ok () := by
  have hunique : ∀ g g' : Segments, s = g.text → s = g'.text → g = g' :=
    fun g g' h h' => Segments.text_injective (h.symm.trans h')
  rcases text_cases s with rfl | ⟨g, rfl⟩ | ⟨hs, hg⟩
  · have hempty (g : Segments) : "" ≠ g.text := (text_ne_empty g).symm
    have hvalidate : validate "" = .ok () := rfl
    have hparse : parse "" = .ok none := rfl
    refine ⟨?_, ?_, hunique, ?_, ?_, ?_, ?_, ?_⟩ <;> simp [hvalidate, hparse, hempty]
  · have hne := text_ne_empty g
    have hself (g' : Segments) : g.text = g'.text ↔ g' = g :=
      ⟨fun h => Segments.text_injective h.symm, fun h => h ▸ rfl⟩
    have hvalidate := validate_text g
    have hparse := parse_text g
    by_cases hport : g.number ≤ 65535
    · rw [if_pos hport] at hparse
      have hlt : g.number < 65536 := Nat.lt_succ_iff.2 hport
      refine ⟨?_, ?_, hunique, ?_, fun l => ?_, ?_, ?_, ?_⟩
      case refine_4 =>
        rw [hparse]
        constructor
        · intro h
          obtain rfl := Option.some.inj (Except.ok.inj h)
          exact ⟨g, rfl, hport, rfl, UInt16.toNat_ofNat_of_lt hlt, rfl, rfl⟩
        · rintro ⟨g', hg', -, hhost, hnumber, hiface, hliteral⟩
          obtain rfl := (hself g').1 hg'
          obtain ⟨literal, host, port, iface⟩ := l
          simp only at hhost hnumber hiface hliteral
          rw [hhost, hiface, hliteral, ← hnumber, UInt16.ofNat_toNat]
      all_goals simp [hvalidate, hparse, hne, hself, Nat.not_lt.2 hport]
    · rw [if_neg hport] at hparse
      have hlt : 65535 < g.number := Nat.lt_of_not_le hport
      refine ⟨?_, ?_, hunique, ?_, ?_, ?_, ?_, ?_⟩ <;>
        simp [hvalidate, hparse, hne, hself, hport, hlt, eq_comm]
  · obtain ⟨hvalidate, hparse⟩ := refuses hs hg
    refine ⟨?_, ?_, hunique, ?_, ?_, ?_, ?_, ?_⟩ <;> simp [hvalidate, hparse, hs, hg, eq_comm]

end SignalActuator.Locator
