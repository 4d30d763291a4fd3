/-
  The defaults of a configuration — a section that is missing, and a field that
  is missing in a section that is there, get the same values.

  * `Toml.Field.Commutes`, `Toml.Shape.Independent`: the fields of a record are
    put into it in any order, so that what one field says stays true when the
    others are read; `Toml.Shape.readEntries_insert`: an entry that says what a
    record says already may be added anywhere;
  * `Toml.Shape.Grown`, `Extended`: what may be added to a section, and to a
    document; `ofEntries_extended`: one addition does not change what is read;
  * `known`: the entries that are read at all, and `known_grows`: every document
    grows out of them;
  * `defaults_agree`: additions in any number do not change what a text is read
    as.
-/
import Mathlib.Data.List.Pairwise
import Mathlib.Logic.Relation
import SignalActuator.Proofs.Config.RoundTrip

namespace SignalActuator

namespace Toml

variable {ρ α β : Type} {s : Shape ρ} {r r' r₀ : ρ} {e d : String × Value} {es es' : Entries}

/-! ## Fields that are independent -/

/-- Two fields that keep out of each other's way: a record gets both, whichever
    is read first. -/
def Field.Commutes (f g : Field ρ) : Prop :=
  ∀ ⦃v w : Value⦄ ⦃r r₁ r₂ : ρ⦄, f.read v r = .ok r₁ → g.read w r = .ok r₂ →
    f.read v r₂ = g.read w r₁

instance : Std.Symm (@Field.Commutes ρ) where
  symm _ _ h _ _ _ _ _ hg hf := (h hf hg).symm

/-- Fields that each put a value of their own into the record are independent if
    the values may be put there in any order. -/
theorem Field.commutes_of_set {readA : Value → Except Mismatch α}
    {readB : Value → Except Mismatch β} {setA : α → ρ → ρ} {setB : β → ρ → ρ} {keyA keyB : String}
    {hasA hasB : Bool} (hset : ∀ a b r, setA a (setB b r) = setB b (setA a r)) :
    Field.Commutes ⟨keyA, fun v r => (readA v).map fun a => setA a r, hasA⟩
      ⟨keyB, fun v r => (readB v).map fun b => setB b r, hasB⟩ := by
  intro v w r r₁ r₂ h₁ h₂
  obtain ⟨a, ha, rfl⟩ := ok_of_map h₁
  obtain ⟨b, hb, rfl⟩ := ok_of_map h₂
  simp only [ha, hb, Except.map, hset]

namespace Shape

def Independent (s : Shape ρ) : Prop :=
  s.fields.Pairwise Field.Commutes

theorem readEntry_unknown (he : ∀ f ∈ s.fields, f.key ≠ e.1) : s.readEntry r e = .ok r := by
  have hf : s.fields.find? (fun f => f.key == e.1) = none :=
    List.find?_eq_none.2 fun f hf => by simpa using he f hf
  rw [readEntry, hf]

theorem readEntry_stays (hs : s.Independent) (hne : d.1 ≠ e.1) (he : s.readEntry r e = .ok r)
    (hd : s.readEntry r d = .ok r') : s.readEntry r' e = .ok r' := by
  unfold readEntry at he hd ⊢
  -- The keys differ, so that two fields read the entries, and these commute.
  cases hf : s.fields.find? (fun f => f.key == e.1) with
  | none => rfl
  | some f =>
    cases hg : s.fields.find? (fun f => f.key == d.1) with
    | none =>
      rw [hg] at hd
      cases hd
      simpa only [hf] using he
    | some g =>
      simp only [hf] at he
      simp only [hg] at hd
      have hfg : f ≠ g := by
        rintro rfl
        have hfe : f.key = e.1 := by simpa using List.find?_some hf
        have hfd : f.key = d.1 := by simpa using List.find?_some hg
        exact hne (hfd.symm.trans hfe)
      have hcomm : f.Commutes g :=
        hs.forall (List.mem_of_find?_eq_some hf) (List.mem_of_find?_eq_some hg) hfg
      exact (hcomm he hd).trans hd

theorem readEntries_stay (hs : s.Independent) (lacks : ∀ d ∈ es, d.1 ≠ e.1)
    (he : s.readEntry r e = .ok r) (h : es.foldlM s.readEntry r = .ok r') :
    s.readEntry r' e = .ok r' := by
  induction es generalizing r with
  | nil =>
    cases h
    exact he
  | cons d es ih =>
    rw [List.forall_mem_cons] at lacks
    rw [List.foldlM_cons] at h
    obtain ⟨r₁, hd, h⟩ := ok_of_bind h
    exact ih lacks.2 (readEntry_stays hs lacks.1 he hd) h

variable {before after : Entries}

/-- An entry that says what the record says already may be added anywhere. -/
theorem readEntries_insert (hs : s.Independent) (lacks : ∀ d ∈ before, d.1 ≠ e.1)
    (he : s.readEntry r e = .ok r) :
    (before ++ e :: after).foldlM s.readEntry r = (before ++ after).foldlM s.readEntry r := by
  rw [List.foldlM_append, List.foldlM_append]
  cases h : before.foldlM s.readEntry r with
  | error m => rfl
  | ok r₁ =>
    have hstay : s.readEntry r₁ e = .ok r₁ := readEntries_stay hs lacks he h
    dsimp only [bind, Except.bind]
    rw [List.foldlM_cons, hstay]
    rfl

theorem readEntries_unknown (he : ∀ f ∈ s.fields, f.key ≠ e.1) :
    (before ++ e :: after).foldlM s.readEntry r = (before ++ after).foldlM s.readEntry r := by
  simp only [List.foldlM_append, List.foldlM_cons, readEntry_unknown he]
  rfl

/-- An entry may be put in the place of one that is read alike. -/
theorem readEntries_replace (h : ∀ r, s.readEntry r d = s.readEntry r e) :
    (before ++ d :: after).foldlM s.readEntry r = (before ++ e :: after).foldlM s.readEntry r := by
  simp only [List.foldlM_append, List.foldlM_cons, h]

/-! ## Tables that grow -/

/-- An entry that says of a field of the record what the record has in it. -/
def Restates (s : Shape ρ) (r : ρ) (e : String × Value) : Prop :=
  ∃ f, s.fields.find? (fun f => f.key == e.1) = some f ∧ f.read e.2 r = .ok r

/-- A table of the record gets one more entry, at the end or further up: a field
    that was missing, with what `r₀` has in it, or a key that the record does not
    know. -/
inductive Grown (s : Shape ρ) (r₀ : ρ) : Entries → Entries → Prop
  | field {before after : Entries} {e : String × Value} (lacks : ∀ d ∈ before ++ after, d.1 ≠ e.1)
      (he : s.Restates r₀ e) : Grown s r₀ (before ++ after) (before ++ e :: after)
  | unknown {before after : Entries} {e : String × Value} (he : ∀ f ∈ s.fields, f.key ≠ e.1) :
      Grown s r₀ (before ++ after) (before ++ e :: after)

/-- If the record begins with what `r₀` has in its fields, a table that grows by
    one of them is read as before. -/
theorem Grown.read (hs : s.Independent) (h₀ : s.initial = r₀) (h : Grown s r₀ es es')
    (o o' : Origin) : s.read (.table o' es') = s.read (.table o es) := by
  subst h₀
  cases h with
  | field lacks he =>
    obtain ⟨f, hf, hread⟩ := he
    refine readEntries_insert hs (fun d hd => lacks d (List.mem_append_left _ hd)) ?_
    rw [readEntry, hf]
    exact hread
  | unknown he => exact readEntries_unknown he

/-! ## Keys that are known -/

/-- Whether the record has a field of the name. -/
def knows (s : Shape ρ) (key : String) : Bool :=
  s.fields.any fun f => f.key == key

theorem ne_key_of_not_knows {key : String} (h : ¬ s.knows key) : ∀ f ∈ s.fields, f.key ≠ key := by
  intro f hf hkey
  exact h (List.any_eq_true.2 ⟨f, hf, by simpa using hkey⟩)

/-- A table without the keys that the record does not know. -/
def prune (s : Shape ρ) : Value → Value
  | .table o es => .table o (es.filter fun e => s.knows e.1)
  | v => v

/-- A table grows out of the keys that the record knows. -/
theorem filter_grows (s : Shape ρ) (r₀ : ρ) (before es : Entries) :
    Relation.ReflTransGen (Grown s r₀) (before ++ es.filter fun e => s.knows e.1)
      (before ++ es) := by
  induction es generalizing before with
  | nil => exact .refl
  | cons e es ih =>
    by_cases he : s.knows e.1
    · rw [List.filter_cons, if_pos he]
      simpa only [List.append_assoc, List.singleton_append] using ih (before ++ [e])
    · rw [List.filter_cons, if_neg he]
      exact (ih before).tail (.unknown (ne_key_of_not_knows he))

end Shape

end Toml

namespace Config

open Toml (Value Mismatch Shape Origin)
open Relation (ReflTransGen EqvGen)

/-! ## The sections

Every field puts its value into a place of its own.
-/

theorem deviceShape_independent : deviceShape.Independent :=
  List.pairwise_singleton _ _

theorem busShape_independent : busShape.Independent := by
  simp only [Shape.Independent, busShape, List.pairwise_cons, List.forall_mem_cons,
    List.not_mem_nil, false_implies, implies_true, List.Pairwise.nil, and_true]
  and_intros <;> exact Toml.Field.commutes_of_set fun _ _ _ => rfl

theorem linkShape_independent : linkShape.Independent := by
  simp only [Shape.Independent, linkShape, List.pairwise_cons, List.forall_mem_cons,
    List.not_mem_nil, false_implies, implies_true, List.Pairwise.nil, and_true]
  and_intros <;> exact Toml.Field.commutes_of_set fun _ _ _ => rfl

theorem outputShape_independent : outputShape.Independent := by
  simp only [Shape.Independent, outputShape, List.pairwise_cons, List.forall_mem_cons,
    List.not_mem_nil, false_implies, implies_true, List.Pairwise.nil, and_true]
  and_intros <;> exact Toml.Field.commutes_of_set fun _ _ _ => rfl

theorem documentShape_independent : documentShape.Independent := by
  simp only [Shape.Independent, documentShape, List.pairwise_cons, List.forall_mem_cons,
    List.not_mem_nil, false_implies, implies_true, List.Pairwise.nil, and_true]
  and_intros <;> exact Toml.Field.commutes_of_set fun _ _ _ => rfl

section

variable {ρ α : Type} {s : Shape ρ} {r : ρ} {key expected : String}

theorem restates_of_read {read : Value → Except Mismatch α} {set : α → ρ → ρ} {hasDefault : Bool}
    (hf : s.fields.find? (fun f => f.key == key) =
      some ⟨key, fun v r => (read v).map fun a => set a r, hasDefault⟩)
    {v : Value} {a : α} (h : read v = .ok a) (hset : set a r = r) : s.Restates r (key, v) := by
  refine ⟨_, hf, ?_⟩
  simp only [h, Except.map, hset]

theorem restates_nat32 {set : UInt32 → ρ → ρ} {n : UInt32}
    (hf : s.fields.find? (fun f => f.key == key) = some (natField32 key set)) (h : set n r = r) :
    s.Restates r (key, .integer n.toNat) := by
  refine restates_of_read hf (asNat_ofNat n.toNat_lt "u32") ?_
  rw [UInt32.ofNat_toNat, h]

theorem restates_nat64 {set : UInt64 → ρ → ρ} {n : UInt64}
    (hf : s.fields.find? (fun f => f.key == key) = some (natField64 key set expected))
    (h : set n r = r) : s.Restates r (key, .integer n.toNat) := by
  refine restates_of_read hf (asNat_ofNat n.toNat_lt expected) ?_
  rw [UInt64.ofNat_toNat, h]

end

/-- What a section begins with is its default, and the entries restate all of the
    default that is not optional. -/
structure Spells {ρ : Type} (s : Shape ρ) (r₀ : ρ) (es : Toml.Entries) : Prop where
  initial : s.initial = r₀
  restates : ∀ e ∈ es, s.Restates r₀ e
  keys : es.map (·.1) = (s.fields.filter (·.hasDefault)).map (·.key)

theorem spells_bus : Spells busShape {} (busEntries {}) where
  initial := rfl
  restates := by
    rw [show busEntries {} = [_, _, _, _, _] from rfl]
    simp only [List.forall_mem_cons]
    exact ⟨⟨_, rfl, rfl⟩, ⟨_, rfl, rfl⟩, ⟨_, rfl, rfl⟩, restates_nat64 rfl rfl,
      restates_nat64 rfl rfl, List.forall_mem_nil _⟩
  keys := rfl

theorem spells_link : Spells linkShape {} (linkEntries {}) where
  initial := rfl
  restates := by
    rw [show linkEntries {} = [_, _] from rfl]
    simp only [List.forall_mem_cons]
    exact ⟨restates_nat32 rfl rfl, restates_nat64 rfl rfl, List.forall_mem_nil _⟩
  keys := rfl

theorem spells_output : Spells outputShape {} (outputEntries {}) where
  initial := rfl
  restates := by
    rw [show outputEntries {} = [_, _, _] from rfl]
    simp only [List.forall_mem_cons]
    exact ⟨⟨_, rfl, rfl⟩, restates_nat32 rfl rfl, ⟨_, rfl, rfl⟩, List.forall_mem_nil _⟩
  keys := rfl

/-! ## Documents that grow -/

/-- The table of a section gets one more entry; the device has no default. -/
inductive SectionGrown : String → Toml.Entries → Toml.Entries → Prop
  | device {es es' : Toml.Entries} (h : deviceShape.Grown none es es') :
      SectionGrown "device" es es'
  | bus {es es' : Toml.Entries} (h : busShape.Grown {} es es') : SectionGrown "bus" es es'
  | link {es es' : Toml.Entries} (h : linkShape.Grown {} es es') : SectionGrown "link" es es'
  | output {es es' : Toml.Entries} (h : outputShape.Grown {} es es') :
      SectionGrown "output" es es'

/-- A document gets one more entry: an empty section that was missing, a key that is
    not known, or an entry in a section that is written as a table. -/
inductive Extended : Toml.Entries → Toml.Entries → Prop
  | missing {before after : Toml.Entries} {key : String} {o : Origin}
      (hkey : key ∈ ["bus", "link", "output"]) (lacks : ∀ d ∈ before ++ after, d.1 ≠ key) :
      Extended (before ++ after) (before ++ (key, .table o []) :: after)
  | unknown {before after : Toml.Entries} {e : String × Value}
      (he : ∀ f ∈ documentShape.fields, f.key ≠ e.1) :
      Extended (before ++ after) (before ++ e :: after)
  | inside {before after es es' : Toml.Entries} {key : String} {o o' : Origin}
      (h : SectionGrown key es es') :
      Extended (before ++ (key, .table o es) :: after) (before ++ (key, .table o' es') :: after)

/-- An empty section is what a missing one is. -/
theorem readEntry_missing {key : String} (hkey : key ∈ ["bus", "link", "output"]) (o : Origin) :
    documentShape.readEntry documentShape.initial (key, .table o []) =
      .ok documentShape.initial := by
  simp only [List.mem_cons, List.not_mem_nil, or_false] at hkey
  rcases hkey with rfl | rfl | rfl <;> rfl

theorem readEntry_sectionGrown {key : String} {es es' : Toml.Entries} (h : SectionGrown key es es')
    (o o' : Origin) (s : Sections) :
    documentShape.readEntry s (key, .table o' es') =
      documentShape.readEntry s (key, .table o es) := by
  cases h with
  | device h =>
    have hread : readDevice (.table o' es') = readDevice (.table o es) := by
      rw [readDevice, readDevice, h.read deviceShape_independent rfl o o']
    exact congrArg (Except.map fun d => { s with device := some d }) hread
  | bus h =>
    exact congrArg (Except.map fun b => { s with bus := b })
      (h.read busShape_independent spells_bus.initial o o')
  | link h =>
    exact congrArg (Except.map fun l => { s with link := l })
      (h.read linkShape_independent spells_link.initial o o')
  | output h =>
    exact congrArg (Except.map fun x => { s with output := x })
      (h.read outputShape_independent spells_output.initial o o')

/-- **One addition to a document does not change what it is read as**, nor why it is
    refused. -/
theorem ofEntries_extended {es es' : Toml.Entries} (h : Extended es es') :
    ofEntries es' = ofEntries es := by
  suffices hread : es'.foldlM documentShape.readEntry documentShape.initial =
      es.foldlM documentShape.readEntry documentShape.initial by
    rw [ofEntries, ofEntries, hread]
  cases h with
  | missing hkey lacks =>
    exact Shape.readEntries_insert documentShape_independent
      (fun d hd => lacks d (List.mem_append_left _ hd)) (readEntry_missing hkey _)
  | unknown he => exact Shape.readEntries_unknown he
  | inside h => exact Shape.readEntries_replace (readEntry_sectionGrown h _ _)

/-- Additions in any number, and back. -/
theorem ofEntries_eqvGen {es es' : Toml.Entries} (h : EqvGen Extended es es') :
    ofEntries es' = ofEntries es := by
  induction h with
  | rel _ _ h => exact ofEntries_extended h
  | refl _ => rfl
  | symm _ _ _ ih => exact ih.symm
  | trans _ _ _ _ _ ih₁ ih₂ => exact ih₂.trans ih₁

/-! ## The known keys of a document -/

/-- A section without the keys that it does not know. -/
def pruneSection : String × Value → String × Value
  | ("device", v) => ("device", deviceShape.prune v)
  | ("bus", v) => ("bus", busShape.prune v)
  | ("link", v) => ("link", linkShape.prune v)
  | ("output", v) => ("output", outputShape.prune v)
  | e => e

/-- The entries of a document that are read at all. -/
def known (es : Toml.Entries) : Toml.Entries :=
  (es.filter fun e => documentShape.knows e.1).map pruneSection

theorem pruned_grows {key : String} {v : Value} {s : Shape ρ} {r₀ : ρ}
    (hs : ∀ {es es'}, s.Grown r₀ es es' → SectionGrown key es es') (before after : Toml.Entries) :
    ReflTransGen Extended (before ++ (key, s.prune v) :: after) (before ++ (key, v) :: after) := by
  cases v with
  | table o es =>
    exact (s.filter_grows r₀ [] es).lift (fun es => before ++ (key, .table o es) :: after)
      fun _ _ h => .inside (hs h)
  | _ => exact .refl

theorem pruneSection_grows (e : String × Value) (before after : Toml.Entries) :
    ReflTransGen Extended (before ++ pruneSection e :: after) (before ++ e :: after) := by
  unfold pruneSection
  split
  · exact pruned_grows .device before after
  · exact pruned_grows .bus before after
  · exact pruned_grows .link before after
  · exact pruned_grows .output before after
  · exact .refl

/-- Every document grows out of its known keys. -/
theorem known_grows (before es : Toml.Entries) :
    ReflTransGen Extended (before ++ known es) (before ++ es) := by
  -- Sections are put back from the last one on; those before are pruned till then.
  induction es generalizing before with
  | nil => exact .refl
  | cons e es ih =>
    by_cases he : documentShape.knows e.1
    · have hrest := ih (before ++ [pruneSection e])
      simp only [List.append_assoc, List.singleton_append] at hrest
      rw [known, List.filter_cons, if_pos he]
      exact hrest.trans (pruneSection_grows e before es)
    · rw [known, List.filter_cons, if_neg he]
      exact (ih before).tail (.unknown (Shape.ne_key_of_not_knows he))

theorem ofEntries_known (es : Toml.Entries) : ofEntries es = ofEntries (known es) :=
  ofEntries_eqvGen (EqvGen.reflTransGen_le_eqvGen Extended _ _ (known_grows [] es))

/-! ## Texts -/

theorem parse_eq_of_ofEntries {es es' : Toml.Entries} (h : ofEntries es' = ofEntries es)
    {text text' : String} (ht : Toml.parse? text = some es) (ht' : Toml.parse? text' = some es') :
    parse text' = parse text := by
  simp only [parse, ht, ht', h]

/-- **The defaults agree**: documents that differ by sections and fields that are
    written out with their defaults, and by keys that are not known, are read as the
    same configuration, or are refused for the same reason; and so are documents with
    the same known keys.  What is left of the document that a configuration is written
    to, when some of its defaults are left out, is read as that configuration. -/
theorem defaults_agree {es es' : Toml.Entries}
    (alike : EqvGen Extended es es' ∨ known es = known es') :
    ofEntries es' = ofEntries es ∧
      (∀ c : Config, es' = c.toEntries.map Toml.headed → ofEntries es = .ok c) ∧
      ∀ {text text' : String}, Toml.parse? text = some es → Toml.parse? text' = some es' →
        parse text' = parse text := by
  have hread : ofEntries es' = ofEntries es := by
    rcases alike with hgrown | hknown
    · exact ofEntries_eqvGen hgrown
    · rw [ofEntries_known es, ofEntries_known es', hknown]
  refine ⟨hread, ?_, fun ht ht' => parse_eq_of_ofEntries hread ht ht'⟩
  rintro c rfl
  rw [← hread, ofEntries_toEntries]

def terse : String :=
  "[device]\nid = 'lamp-1'\n[bus]\nmode = 'peer'\n"

/-- The same with a default that is written out, a section that is empty, and a key
    of someone else. -/
def verbose : String :=
  "owner = 'me'\n[device]\nid = 'lamp-1'\n[bus]\nmode = 'peer'\nlocator = ''\n[link]\n"

def terseEntries : Toml.Entries :=
  [("device", .table .headed [("id", .string "lamp-1")]),
   ("bus", .table .headed [("mode", .string "peer")])]

def verboseEntries : Toml.Entries :=
  [("owner", .string "me"), ("device", .table .headed [("id", .string "lamp-1")]),
   ("bus", .table .headed [("mode", .string "peer"), ("locator", .string "")]),
   ("link", .table .headed [])]

theorem verboseEntries_grow : ReflTransGen Extended terseEntries verboseEntries := by
  have hlocator : SectionGrown "bus" [("mode", .string "peer")]
      [("mode", .string "peer"), ("locator", .string "")] :=
    .bus (@Shape.Grown.field _ _ _ [_] [] _ (by decide)
      (spells_bus.restates _ (by simp [busEntries, textValue])))
  refine .head (@Extended.unknown [] terseEntries ("owner", .string "me") (by decide)) ?_
  refine .head (@Extended.inside [_, _] _ _ _ _ .headed .headed hlocator) ?_
  exact .single (@Extended.missing [_, _, _] [] "link" .headed (by decide) (by decide))

theorem defaults_agree_verbose :
    parse verbose = parse terse ∧
      parse verbose = .ok { device := ⟨"lamp-1"⟩, bus := { mode := .peer } } := by
  have hterse : Toml.parse? terse = some terseEntries := rfl
  have hverbose : Toml.parse? verbose = some verboseEntries := rfl
  have hgrown : EqvGen Extended terseEntries verboseEntries :=
    EqvGen.reflTransGen_le_eqvGen Extended _ _ verboseEntries_grow
  exact ⟨(defaults_agree (.inl hgrown)).2.2 hterse hverbose, by decide +kernel⟩

end Config

end SignalActuator
