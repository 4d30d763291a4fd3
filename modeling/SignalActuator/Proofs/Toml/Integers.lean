/-
  Integers of a document — each of them has 64 bits.

  * `Value.Fits`: no integer in a value is out of that range;
  * `value?_fits`: what is read as a value fits, by induction on how deep it
    nests;
  * `reach_fits` and `insertAt_fits`: what is put into a table by a path leaves
    the tables on the way fitting;
  * `parse?_fits`: the entries of a document fit.
-/
import SignalActuator.Proofs.Toml.Numbers
import SignalActuator.Toml.Document
import Mathlib.Tactic.SplitIfs

namespace SignalActuator.Toml

/-- A value whose integers have 64 bits. -/
inductive Value.Fits : Value → Prop
  | string {s} : (Value.string s).Fits
  | integer {n : Int} : -integerLimit ≤ n → n < integerLimit → (Value.integer n).Fits
  | float {x} : (Value.float x).Fits
  | boolean {b} : (Value.boolean b).Fits
  | moment {text} : (Value.moment text).Fits
  | array {growing items} : (∀ v ∈ items, v.Fits) → (Value.array growing items).Fits
  | table {origin es} : (∀ e ∈ es, Value.Fits e.2) → (Value.table origin es).Fits

def Entries.Fits (es : Entries) : Prop :=
  ∀ e ∈ es, e.2.Fits

/-! ## Values -/

theorem integer?_fits {negative : Bool} {n : Nat} {v : Value}
    (h : integer? negative n = some v) : v.Fits := by
  have hpos : 0 < integerLimit := by decide
  rw [integer?, ← integerLimit] at h
  split_ifs at h <;> cases h <;> exact .integer (by omega) (by omega)

theorem float?_fits {negative : Bool} {digits : List Char} {e : Int} {v : Value}
    (h : float? negative digits e = some v) : v.Fits := by
  unfold float? at h
  dsimp only at h
  split_ifs at h
  cases h
  exact .float

theorem decimal?_fits {negative : Bool} {cs rest : List Char} {v : Value}
    (h : decimal? negative cs = some (v, rest)) : v.Fits := by
  simp only [decimal?, Option.bind_eq_bind, Option.pure_def] at h
  obtain ⟨⟨whole, cs⟩, _, h⟩ := Option.bind_eq_some_iff.1 h
  split at h
  · obtain ⟨⟨fraction, cs⟩, _, h⟩ := Option.bind_eq_some_iff.1 h
    dsimp only at h
    split_ifs at h <;>
    · obtain ⟨_, _, h⟩ := Option.bind_eq_some_iff.1 h
      obtain ⟨x, hx, heq⟩ := Option.bind_eq_some_iff.1 h
      cases heq
      exact float?_fits hx
  · split_ifs at h
    · obtain ⟨_, _, h⟩ := Option.bind_eq_some_iff.1 h
      obtain ⟨x, hx, heq⟩ := Option.bind_eq_some_iff.1 h
      cases heq
      exact float?_fits hx
    · obtain ⟨n, hn, heq⟩ := Option.bind_eq_some_iff.1 h
      cases heq
      exact integer?_fits hn

theorem based?_fits {base : Nat} {cs rest : List Char} {v : Value}
    (h : based? base cs = some (v, rest)) : v.Fits := by
  simp only [based?, Option.bind_eq_bind, Option.pure_def] at h
  obtain ⟨_, _, h⟩ := Option.bind_eq_some_iff.1 h
  obtain ⟨n, hn, heq⟩ := Option.bind_eq_some_iff.1 h
  cases heq
  exact integer?_fits hn

theorem number?_fits {cs rest : List Char} {v : Value} (h : number? cs = some (v, rest)) :
    v.Fits := by
  unfold number? at h
  split at h
  · exact based?_fits h
  · exact based?_fits h
  · exact based?_fits h
  · split at h
    · cases h
      exact .float
    · cases h
      exact .float
    · exact decimal?_fits h

theorem scalar_fits {cs rest : List Char} {v : Value} (h : scalar cs = some (v, rest)) :
    v.Fits := by
  unfold scalar at h
  split at h
  · obtain ⟨_, _, heq⟩ := Option.map_eq_some_iff.1 h
    cases heq
    exact .string
  · obtain ⟨_, _, heq⟩ := Option.map_eq_some_iff.1 h
    cases heq
    exact .string
  · cases h
    exact .boolean
  · cases h
    exact .boolean
  · split_ifs at h
    split at h
    · cases h
      exact .moment
    · cases h
    · exact number?_fits h
  · cases h

/-! ## Tables under construction -/

namespace Entries

variable {es : Entries} {k : String} {v : Value}

theorem Fits.nil : Fits [] :=
  List.forall_mem_nil _

theorem Fits.append (h : es.Fits) (hv : v.Fits) : (es.append k v).Fits := by
  intro e he
  rcases List.mem_append.1 he with he | he
  · exact h e he
  · rw [List.mem_singleton.1 he]
    exact hv

theorem Fits.replace (h : es.Fits) (hv : v.Fits) : (es.replace k v).Fits := by
  intro e he
  obtain ⟨e, he', rfl⟩ := List.mem_map.1 he
  split
  · exact hv
  · exact h e he'

theorem Fits.erase (h : es.Fits) : (es.erase k).Fits :=
  fun e he => h e (List.mem_filter.1 he).1

theorem Fits.get? (h : es.Fits) (hv : es.get? k = some v) : v.Fits := by
  obtain ⟨e, he, rfl⟩ := Option.map_eq_some_iff.1 hv
  exact h e (List.mem_of_find?_eq_some he)

end Entries

/-- The elements of a list of tables that fits, with another table at its end. -/
theorem Value.Fits.putLast {growing : Bool} {items : List Value} {o : Origin} {es : Entries}
    (h : (Value.array growing items).Fits) (hes : es.Fits) :
    (Value.array growing (items.dropLast ++ [.table o es])).Fits := by
  cases h with
  | array h =>
    refine .array fun v hv => ?_
    rcases List.mem_append.1 hv with hv | hv
    · exact h v (List.dropLast_subset _ hv)
    · rw [List.mem_singleton.1 hv]
      exact .table hes

theorem Value.Fits.last {growing : Bool} {items : List Value} {o : Origin} {es : Entries}
    (h : (Value.array growing items).Fits) (hlast : items.getLast? = some (.table o es)) :
    es.Fits := by
  cases h with
  | array h =>
    cases h _ (List.mem_of_getLast? hlast) with
    | table hes => exact hes

theorem insertAt_fits {v : Value} (hv : v.Fits) {last : String} {path : List String}
    {origin : Origin} {es es' : Entries} (hes : es.Fits)
    (h : insertAt origin es last v path = some es') : es'.Fits := by
  induction path generalizing origin es es' with
  | nil =>
    rw [insertAt] at h
    split_ifs at h
    cases h
    exact hes.append hv
  | cons k ks ih =>
    rw [insertAt] at h
    split at h
    · obtain ⟨sub, hsub, rfl⟩ := Option.map_eq_some_iff.1 h
      exact hes.append (.table (ih .nil hsub))
    · rename_i o sub hget
      split_ifs at h
      obtain ⟨sub', hsub, rfl⟩ := Option.map_eq_some_iff.1 h
      cases hes.get? hget with
      | table hfits => exact hes.replace (.table (ih hfits hsub))
    · rename_i items hget
      split at h
      · rename_i o sub hlast
        obtain ⟨sub', hsub, rfl⟩ := Option.map_eq_some_iff.1 h
        have hitems := hes.get? hget
        exact hes.replace (hitems.putLast (ih (hitems.last hlast) hsub))
      · cases h
    · cases h

theorem insertLine_fits {v : Value} (hv : v.Fits) {last : String} {path : List String}
    {es es' : Entries} (hes : es.Fits) (h : insertLine es path last v = some es') : es'.Fits := by
  unfold insertLine at h
  split at h
  · split_ifs at h
    cases h
    exact hes.append hv
  · exact insertAt_fits hv hes h

/-! ## Nested values -/

/-- A reader all of whose values fit. -/
def YieldsFits (item : Reader Value) : Prop :=
  ∀ {cs rest : List Char} {v : Value}, item cs = some (v, rest) → v.Fits

theorem items?_fits {item : Reader Value} (hitem : YieldsFits item) {fuel : Nat}
    {cs rest : List Char} {vs : List Value} (h : items? item fuel cs = some (vs, rest)) :
    ∀ v ∈ vs, v.Fits := by
  induction fuel generalizing cs rest vs with
  | zero => cases h
  | succ fuel ih =>
    rw [items?] at h
    split at h
    · cases h
      exact List.forall_mem_nil _
    · simp only [Option.bind_eq_bind, Option.bind_eq_some_iff] at h
      obtain ⟨⟨v, cs'⟩, hv, h⟩ := h
      split at h
      · cases h
        exact List.forall_mem_singleton.2 (hitem hv)
      · obtain ⟨⟨vs', rest'⟩, hvs, h⟩ := Option.bind_eq_some_iff.1 h
        cases h
        exact List.forall_mem_cons.2 ⟨hitem hv, ih hvs⟩
      · cases h

theorem pairs?_fits {item : Reader Value} (hitem : YieldsFits item) {fuel : Nat}
    {cs rest : List Char} {es es' : Entries} (hes : es.Fits)
    (h : pairs? item es fuel cs = some (es', rest)) : es'.Fits := by
  induction fuel generalizing cs rest es with
  | zero => cases h
  | succ fuel ih =>
    simp only [pairs?, Option.bind_eq_bind, Option.bind_eq_some_iff] at h
    obtain ⟨⟨⟨path, last⟩, cs⟩, -, h⟩ := h
    split at h
    · simp only [Option.bind_eq_some_iff] at h
      obtain ⟨⟨v, cs⟩, hv, es₁, hes₁, h⟩ := h
      have hfits := insertLine_fits (hitem hv) hes hes₁
      split at h
      · cases h
        exact hfits
      · exact ih hfits h
      · cases h
    · cases h

theorem value?_fits (depth : Nat) : YieldsFits (value? depth) := by
  induction depth with
  | zero => exact scalar_fits
  | succ depth ih =>
    intro cs rest v h
    unfold value? at h
    split at h
    · obtain ⟨⟨vs, rest⟩, hvs, h⟩ := Option.map_eq_some_iff.1 h
      cases h
      exact .array (items?_fits ih hvs)
    · split at h
      · cases h
        exact .table Entries.Fits.nil
      · obtain ⟨⟨es, rest⟩, hes, h⟩ := Option.map_eq_some_iff.1 h
        cases h
        exact .table (pairs?_fits ih .nil hes)
    · exact scalar_fits h

/-! ## Documents -/

def Statement.Fits : Statement → Prop
  | .setting _ _ v => v.Fits
  | .section _ _ | .element _ _ => True

theorem statement?_fits {cs rest : List Char} {s : Statement}
    (h : statement? cs = some (s, rest)) : s.Fits := by
  unfold statement? at h
  split at h
  all_goals
    simp only [Option.bind_eq_bind, Option.pure_def] at h
    obtain ⟨⟨⟨path, last⟩, cs⟩, _, h⟩ := Option.bind_eq_some_iff.1 h
    dsimp only at h
    split at h
  · obtain ⟨_, _, heq⟩ := Option.bind_eq_some_iff.1 h
    cases heq
    trivial
  · cases h
  · obtain ⟨_, _, heq⟩ := Option.bind_eq_some_iff.1 h
    cases heq
    trivial
  · cases h
  · obtain ⟨⟨v, cs⟩, hv, h⟩ := Option.bind_eq_some_iff.1 h
    obtain ⟨_, _, heq⟩ := Option.bind_eq_some_iff.1 h
    cases heq
    exact value?_fits _ hv
  · cases h

theorem statementsFrom?_fits {fuel : Nat} {cs : List Char} {ss : List Statement}
    (h : statementsFrom? fuel cs = some ss) : ∀ s ∈ ss, s.Fits := by
  induction fuel generalizing cs ss with
  | zero => cases h
  | succ fuel ih =>
    rw [statementsFrom?] at h
    split at h
    · cases h
      exact List.forall_mem_nil _
    · obtain ⟨⟨s, rest⟩, hs, h⟩ := Option.bind_eq_some_iff.1 h
      obtain ⟨ss', hss, heq⟩ := Option.bind_eq_some_iff.1 h
      cases heq
      exact List.forall_mem_cons.2 ⟨statement?_fits hs, ih hss⟩

theorem reach_fits {change : Entries → Option Entries}
    (hchange : ∀ {es es' : Entries}, es.Fits → change es = some es' → es'.Fits)
    {path : List String} {es es' : Entries} (hes : es.Fits)
    (h : reach change es path = some es') : es'.Fits := by
  induction path generalizing es es' with
  | nil => exact hchange hes h
  | cons k ks ih =>
    rw [reach] at h
    split at h
    · obtain ⟨sub, hsub, rfl⟩ := Option.map_eq_some_iff.1 h
      exact hes.append (.table (ih .nil hsub))
    · rename_i o sub hget
      split_ifs at h
      obtain ⟨sub', hsub, rfl⟩ := Option.map_eq_some_iff.1 h
      cases hes.get? hget with
      | table hfits => exact hes.replace (.table (ih hfits hsub))
    · rename_i items hget
      split at h
      · rename_i o sub hlast
        obtain ⟨sub', hsub, rfl⟩ := Option.map_eq_some_iff.1 h
        have hitems := hes.get? hget
        exact hes.replace (hitems.putLast (ih (hitems.last hlast) hsub))
      · cases h
    · cases h

theorem openTable_fits {last : String} {es es' : Entries} (hes : es.Fits)
    (h : openTable last es = some es') : es'.Fits := by
  unfold openTable at h
  split at h
  · cases h
    exact hes.append (.table Entries.Fits.nil)
  · rename_i sub hget
    cases h
    exact hes.erase.append (by cases hes.get? hget with | table hsub => exact .table hsub)
  · cases h

theorem openElement_fits {last : String} {es es' : Entries} (hes : es.Fits)
    (h : openElement last es = some es') : es'.Fits := by
  unfold openElement at h
  split at h
  · cases h
    exact hes.append (.array (List.forall_mem_singleton.2 (.table Entries.Fits.nil)))
  · rename_i items hget
    cases h
    refine hes.replace (.array fun v hv => ?_)
    rcases List.mem_append.1 hv with hv | hv
    · cases hes.get? hget with
      | array hitems => exact hitems v hv
    · rw [List.mem_singleton.1 hv]
      exact .table Entries.Fits.nil
  · cases h

theorem Draft.add_fits {d d' : Draft} {s : Statement} (hd : d.entries.Fits) (hs : s.Fits)
    (h : d.add s = some d') : d'.entries.Fits := by
  cases s with
  | setting path last v =>
    obtain ⟨es, hes, rfl⟩ := Option.map_eq_some_iff.1 h
    exact reach_fits (fun hes h => insertLine_fits hs hes h) hd hes
  | «section» path last =>
    obtain ⟨es, hes, rfl⟩ := Option.map_eq_some_iff.1 h
    exact reach_fits openTable_fits hd hes
  | element path last =>
    obtain ⟨es, hes, rfl⟩ := Option.map_eq_some_iff.1 h
    exact reach_fits openElement_fits hd hes

theorem Draft.adds_fits {ss : List Statement} (hss : ∀ s ∈ ss, s.Fits) {d d' : Draft}
    (hd : d.entries.Fits) (h : ss.foldlM Draft.add d = some d') : d'.entries.Fits := by
  induction ss generalizing d with
  | nil =>
    cases h
    exact hd
  | cons s ss ih =>
    rw [List.forall_mem_cons] at hss
    obtain ⟨d₁, hd₁, h⟩ := Option.bind_eq_some_iff.1 h
    exact ih hss.2 (add_fits hd hss.1 hd₁) h

/-- **The entries of a document fit.** -/
theorem parse?_fits {text : String} {es : Entries} (h : parse? text = some es) : es.Fits := by
  obtain ⟨ss, hss, h⟩ := Option.bind_eq_some_iff.1 h
  obtain ⟨draft, hdraft, heq⟩ := Option.bind_eq_some_iff.1 h
  cases heq
  exact Draft.adds_fits (statementsFrom?_fits hss) .nil hdraft

end SignalActuator.Toml
