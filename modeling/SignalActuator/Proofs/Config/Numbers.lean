/-
  The numbers of a configuration — those that come out of a document are below
  2^63, also where their fields have 64 bits.

  A document has no integers above that, so no text gives such a number to a
  field, and a configuration that was read can be written.

  * `Toml.Shape.read_keeps`: what every field of a record keeps, reading the
    record keeps;
  * `Writable`: the numbers are below 2^63, and `ofEntries_writable`: those of a
    configuration out of a document are.
-/
import SignalActuator.Config.Reading
import SignalActuator.Proofs.Toml.Integers

namespace SignalActuator

/-! ## Steps that went well -/

section

variable {ε α β : Type} {x : Except ε α} {b : β}

theorem ok_of_bind {f : α → Except ε β} (h : x >>= f = .ok b) :
    ∃ a, x = .ok a ∧ f a = .ok b := by
  cases x with
  | error e => cases h
  | ok a => exact ⟨a, rfl, h⟩

theorem ok_of_map {f : α → β} (h : x.map f = .ok b) : ∃ a, x = .ok a ∧ f a = b := by
  cases x with
  | error e => cases h
  | ok a => exact ⟨a, rfl, Except.ok.inj h⟩

theorem ok_of_mapError {δ : Type} {f : ε → δ} {a : α} (h : x.mapError f = .ok a) :
    x = .ok a := by
  cases x with
  | error e => cases h
  | ok a' => exact congrArg _ (Except.ok.inj h)

end

namespace Toml

variable {ρ : Type}

/-! ## What a record keeps -/

/-- A property of a record that stays true when a field is read. -/
def Field.Keeps (P : ρ → Prop) (f : Field ρ) : Prop :=
  ∀ ⦃v : Value⦄ ⦃r r' : ρ⦄, v.Fits → P r → f.read v r = .ok r' → P r'

namespace Shape

variable {s : Shape ρ} {P : ρ → Prop}

theorem readEntry_keeps (hs : ∀ f ∈ s.fields, f.Keeps P) {e : String × Value} {r r' : ρ}
    (he : e.2.Fits) (hr : P r) (h : s.readEntry r e = .ok r') : P r' := by
  unfold readEntry at h
  split at h
  · rename_i f hf
    exact hs f (List.mem_of_find?_eq_some hf) he hr h
  · cases h
    exact hr

theorem readEntries_keeps (hs : ∀ f ∈ s.fields, f.Keeps P) {es : Entries} (hes : es.Fits)
    {r r' : ρ} (hr : P r) (h : es.foldlM s.readEntry r = .ok r') : P r' := by
  induction es generalizing r with
  | nil =>
    cases h
    exact hr
  | cons e es ih =>
    rw [List.foldlM_cons] at h
    rw [Entries.Fits, List.forall_mem_cons] at hes
    obtain ⟨r₁, h₁, h⟩ := ok_of_bind h
    exact ih hes.2 (readEntry_keeps hs hes.1 hr h₁) h

theorem readItems_keeps {fs : List (Field ρ)} (hs : ∀ f ∈ fs, f.Keeps P) {items : List Value}
    (hitems : ∀ v ∈ items, v.Fits) {index : Nat} {r r' : ρ} (hr : P r)
    (h : s.readItems fs items index r = .ok r') : P r' := by
  induction fs generalizing items index r with
  | nil =>
    cases h
    exact hr
  | cons f fs ih =>
    rw [List.forall_mem_cons] at hs
    cases items with
    | nil =>
      rw [readItems] at h
      split at h
      · exact ih hs.2 hitems hr h
      · cases h
    | cons v vs =>
      rw [List.forall_mem_cons] at hitems
      obtain ⟨r₁, h₁, h⟩ := ok_of_bind h
      exact ih hs.2 hitems.2 (hs.1 hitems.1 hr h₁) h

/-- What every field keeps, reading the record keeps. -/
theorem read_keeps (hs : ∀ f ∈ s.fields, f.Keeps P) (h₀ : P s.initial) {v : Value} {r : ρ}
    (hv : v.Fits) (h : s.read v = .ok r) : P r := by
  unfold read at h
  split at h
  · cases hv with
    | table hes => exact readEntries_keeps hs hes h₀ h
  · cases hv with
    | array hitems => exact readItems_keeps hs hitems h₀ h
  · cases h
    exact h₀
  · cases h

end Shape

end Toml

namespace Config

open Toml (Value Field)

variable {ρ α : Type} {P : ρ → Prop} {key expected : String}

/-! ## Fields -/

theorem textField_keeps {set : String → ρ → ρ} (hset : ∀ t r, P r → P (set t r))
    (hasDefault : Bool) : (textField key set hasDefault expected).Keeps P := by
  intro v r r' _ hr h
  obtain ⟨t, _, rfl⟩ := ok_of_map h
  exact hset t r hr

theorem variantField_keeps {known : List (String × α)} {set : α → ρ → ρ}
    (hset : ∀ a r, P r → P (set a r)) : (variantField key known set).Keeps P := by
  intro v r r' _ hr h
  obtain ⟨a, _, rfl⟩ := ok_of_map h
  exact hset a r hr

theorem natField32_keeps {set : UInt32 → ρ → ρ} (hset : ∀ n r, P r → P (set n r)) :
    (natField32 key set).Keeps P := by
  intro v r r' _ hr h
  obtain ⟨n, _, rfl⟩ := ok_of_map h
  exact hset _ r hr

/-- A natural of 64 bits that is read from a value that fits is below 2^63. -/
theorem natField64_keeps {set : UInt64 → ρ → ρ}
    (hset : ∀ n r, n.toNat < Toml.integerLimit → P r → P (set n r)) :
    (natField64 key set expected).Keeps P := by
  intro v r r' hv hr h
  obtain ⟨n, hn, rfl⟩ := ok_of_map h
  refine hset _ r ?_ hr
  cases hv with
  | integer _ hlt =>
    rw [Value.asNat] at hn
    split at hn
    · cases hn
      rw [UInt64.toNat_ofNat']
      omega
    · cases hn
  | _ => cases hn

/-! ## Sections -/

/-- The numbers of the bus that a document can hold. -/
def BusSettings.Writable (b : BusSettings) : Prop :=
  b.connectTimeoutSecs.toNat < Toml.integerLimit ∧ b.channelCapacity.toNat < Toml.integerLimit

/-- The numbers of the link that a document can hold. -/
def LinkSettings.Writable (l : LinkSettings) : Prop :=
  l.pollIntervalMs.toNat < Toml.integerLimit

theorem BusSettings.writable_default : BusSettings.Writable {} :=
  ⟨by decide, by decide⟩

theorem LinkSettings.writable_default : LinkSettings.Writable {} := by
  unfold Writable
  decide

/-- A configuration whose numbers a document can hold. -/
def Writable (c : Config) : Prop :=
  c.bus.Writable ∧ c.link.Writable

theorem busShape_keeps : ∀ f ∈ busShape.fields, f.Keeps BusSettings.Writable := by
  simp only [busShape, List.forall_mem_cons]
  refine ⟨variantField_keeps ?_, textField_keeps ?_ _, textField_keeps ?_ _, natField64_keeps ?_,
    natField64_keeps ?_, textField_keeps ?_ _, textField_keeps ?_ _, List.forall_mem_nil _⟩
  -- Only the two numbers of 64 bits touch what is kept.
  case refine_4 => exact fun n b hn hb => ⟨hn, hb.2⟩
  case refine_5 => exact fun n b hn hb => ⟨hb.1, hn⟩
  all_goals exact fun _ b hb => hb

theorem linkShape_keeps : ∀ f ∈ linkShape.fields, f.Keeps LinkSettings.Writable := by
  simp only [linkShape, List.forall_mem_cons]
  refine ⟨textField_keeps ?_ _, textField_keeps ?_ _, textField_keeps ?_ _, natField32_keeps ?_,
    natField64_keeps ?_, ?_, List.forall_mem_nil _⟩
  case refine_5 => exact fun n l hn _ => hn
  case refine_6 =>
    intro v l l' _ hl h
    obtain ⟨command, _, rfl⟩ := ok_of_map h
    exact hl
  all_goals exact fun _ l hl => hl

/-- The sections read so far have numbers that a document can hold. -/
def Sections.Writable (s : Sections) : Prop :=
  s.bus.Writable ∧ s.link.Writable

theorem documentShape_keeps : ∀ f ∈ documentShape.fields, f.Keeps Sections.Writable := by
  simp only [documentShape, List.forall_mem_cons]
  refine ⟨?_, ?_, ?_, ?_, List.forall_mem_nil _⟩
  all_goals intro v s s' hv hs h
  all_goals obtain ⟨x, hx, rfl⟩ := ok_of_map h
  · exact hs
  · exact ⟨Toml.Shape.read_keeps busShape_keeps BusSettings.writable_default hv hx, hs.2⟩
  · exact ⟨hs.1, Toml.Shape.read_keeps linkShape_keeps LinkSettings.writable_default hv hx⟩
  · exact hs

/-- **The numbers of a configuration out of a document are below 2^63.** -/
theorem ofEntries_writable {es : Toml.Entries} (hes : es.Fits) {c : Config}
    (h : ofEntries es = .ok c) : c.Writable := by
  obtain ⟨s, hs, h⟩ := ok_of_bind h
  have hw : s.Writable :=
    Toml.Shape.readEntries_keeps documentShape_keeps hes
      ⟨BusSettings.writable_default, LinkSettings.writable_default⟩ hs
  split at h
  · cases h
    exact hw
  · cases h

end Config

end SignalActuator
