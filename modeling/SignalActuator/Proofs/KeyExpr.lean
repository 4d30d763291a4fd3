/-
  Key-expressions — exactly which texts name a concrete signal, and what is wrong with each
  of the others.

  A key-expression is levels with a `/` between them, at least one.  A level has at least
  one character, and no `/`, `+`, `#` or `*`.

  * `Path` is such a key-expression in its levels, and `Path.text` its text;
    `Path.text_injective`: a text is put together in one way at most;
  * `nil_mem_levels_iff`: a path has an empty level exactly if it is empty, a separator stands
    at an end of it, or two of them meet;
  * `key_expressions`: what checking a text comes to, in every case.
-/
import SignalActuator.KeyExpr
import Mathlib.Data.List.Infix

namespace SignalActuator.KeyExpr

/-! ## Paths -/

/-- Without a character that stands for several levels or names. -/
structure IsConcrete (cs : List Char) : Prop where
  plus : '+' ∉ cs
  hash : '#' ∉ cs
  star : '*' ∉ cs

/-- A level of the name of a concrete signal. -/
structure IsLevel (l : List Char) : Prop where
  ne_nil : l ≠ []
  separator : '/' ∉ l
  concrete : IsConcrete l

/-- The name of a concrete signal in its levels. -/
structure Path where
  levels : List (List Char)
  ne_nil : levels ≠ []
  isLevel : ∀ l ∈ levels, IsLevel l

def Path.text (p : Path) : String :=
  String.ofList (joinLevels p.levels)

/-- A separator stands at an end of a text, or two of them meet. -/
def IsGapped (cs : List Char) : Prop :=
  ['/'] <+: cs ∨ ['/'] <:+ cs ∨ ['/', '/'] <:+: cs

/-! ## Splitting and joining -/

theorem levels_eq_splitOn (cs : List Char) : levels cs = cs.splitOn '/' := by
  induction cs with
  | nil => rfl
  | cons c cs ih =>
    rw [levels, ih, List.splitOn, List.splitOn, List.splitOnP_cons_eq_if_modifyHead]
    by_cases h : c = '/'
    · simp [h]
    · rcases hs : List.splitOnP (· == '/') cs with _ | ⟨l, ls⟩
      · exact absurd hs (List.splitOnP_ne_nil _ _)
      · simp [h]

theorem joinLevels_eq_intercalate (ls : List (List Char)) :
    joinLevels ls = List.intercalate ['/'] ls := by
  fun_induction joinLevels ls with
  | case1 => rfl
  | case2 l => simp [List.intercalate]
  | case3 l ls hne ih =>
    rcases ls with _ | ⟨l', ls⟩
    · exact absurd rfl hne
    · simp [ih, List.intercalate]

theorem joinLevels_levels (cs : List Char) : joinLevels (levels cs) = cs := by
  rw [joinLevels_eq_intercalate, levels_eq_splitOn, List.intercalate_splitOn]

theorem levels_joinLevels {ls : List (List Char)} (hne : ls ≠ []) (h : ∀ l ∈ ls, '/' ∉ l) :
    levels (joinLevels ls) = ls := by
  rw [joinLevels_eq_intercalate, levels_eq_splitOn, List.splitOn_intercalate _ h hne]

theorem levels_ne_nil (cs : List Char) : levels cs ≠ [] := by
  rw [levels_eq_splitOn]
  exact List.splitOnP_ne_nil _ _

theorem separator_notMem {cs l : List Char} (hl : l ∈ levels cs) : '/' ∉ l := by
  induction cs generalizing l with
  | nil => simp_all [levels]
  | cons c cs ih =>
    rw [levels] at hl
    split at hl
    · rcases List.mem_cons.1 hl with rfl | hl
      · simp
      · exact ih hl
    · rename_i hc
      split at hl
      · rename_i l' ls hls
        rw [hls] at ih
        rcases List.mem_cons.1 hl with rfl | hl
        · simp [Ne.symm hc, ih List.mem_cons_self]
        · exact ih (List.mem_cons_of_mem _ hl)
      · exact absurd ‹_› (levels_ne_nil cs)

theorem mem_joinLevels {c : Char} (hc : c ≠ '/') (ls : List (List Char)) :
    c ∈ joinLevels ls ↔ ∃ l ∈ ls, c ∈ l := by
  fun_induction joinLevels ls with
  | case1 => simp
  | case2 l => simp
  | case3 l ls hne ih => simp [ih, hc]

theorem isConcrete_joinLevels {ls : List (List Char)} :
    IsConcrete (joinLevels ls) ↔ ∀ l ∈ ls, IsConcrete l := by
  constructor
  · intro h l hl
    have hmem {c : Char} (hc : c ≠ '/') (hcl : c ∈ l) : c ∈ joinLevels ls :=
      (mem_joinLevels hc ls).2 ⟨l, hl, hcl⟩
    exact ⟨mt (hmem (by decide)) h.plus, mt (hmem (by decide)) h.hash,
      mt (hmem (by decide)) h.star⟩
  · intro h
    refine ⟨fun hc => ?_, fun hc => ?_, fun hc => ?_⟩
    all_goals obtain ⟨l, hl, hcl⟩ := (mem_joinLevels (by decide) ls).1 hc
    · exact (h l hl).plus hcl
    · exact (h l hl).hash hcl
    · exact (h l hl).star hcl

theorem isConcrete_iff {cs : List Char} : IsConcrete cs ↔ cs.any isWildcard = false := by
  rw [List.any_eq_false]
  constructor
  · intro h c hc hwild
    simp only [isWildcard, Bool.or_eq_true, beq_iff_eq] at hwild
    rcases hwild with (rfl | rfl) | rfl
    · exact h.plus hc
    · exact h.hash hc
    · exact h.star hc
  · intro h
    exact ⟨fun hc => h _ hc rfl, fun hc => h _ hc rfl, fun hc => h _ hc rfl⟩

/-! ## Empty levels -/

/-- The first level is empty if the path is, or if a separator begins it. -/
theorem head?_levels_iff (cs : List Char) :
    (levels cs).head? = some [] ↔ cs = [] ∨ ['/'] <+: cs := by
  rcases cs with _ | ⟨c, cs⟩
  · simp [levels]
  · rw [levels]
    split
    · rename_i hc
      simp [hc]
    · rename_i hc
      split <;> simp [Ne.symm hc]

theorem nil_mem_levels_iff_head (cs : List Char) :
    [] ∈ levels cs ↔ (levels cs).head? = some [] ∨ [] ∈ (levels cs).tail := by
  rcases hls : levels cs with _ | ⟨l, ls⟩
  · exact absurd hls (levels_ne_nil cs)
  · simp [eq_comm]

/-- Another level is empty if a separator ends the path, or if two of them meet. -/
theorem nil_mem_tail_levels_iff (cs : List Char) :
    [] ∈ (levels cs).tail ↔ ['/'] <:+ cs ∨ ['/', '/'] <:+: cs := by
  induction cs with
  | nil => simp [levels]
  | cons c cs ih =>
    rw [List.suffix_cons_iff, List.infix_cons_iff, levels]
    split
    · rename_i hc
      rw [List.tail_cons, nil_mem_levels_iff_head, head?_levels_iff, ih, hc]
      simp only [List.cons.injEq, true_and, List.cons_prefix_cons, eq_comm (a := ([] : List Char))]
      tauto
    · rename_i hc
      have htail : (['/'] = c :: cs ∨ ['/', '/'] <+: c :: cs) ↔ False := by
        simp [Ne.symm hc]
      split
      · rename_i l ls hls
        rw [hls, List.tail_cons] at ih
        rw [List.tail_cons, ih]
        tauto
      · exact absurd ‹_› (levels_ne_nil cs)

/-- **Empty levels.**  A path has one exactly if it is empty itself, a separator stands at
    an end of it, or two of them meet. -/
theorem nil_mem_levels_iff (cs : List Char) :
    [] ∈ levels cs ↔ cs = [] ∨ IsGapped cs := by
  rw [nil_mem_levels_iff_head, head?_levels_iff, nil_mem_tail_levels_iff, or_assoc, IsGapped]

/-! ## Texts -/

namespace Path

theorem levels_text (p : Path) : KeyExpr.levels p.text.toList = p.levels := by
  rw [text, String.toList_ofList]
  exact levels_joinLevels p.ne_nil fun l hl => (p.isLevel l hl).separator

/-- **A name is put together in one way.** -/
theorem text_injective : Function.Injective text := by
  intro p p' h
  have hlevels : p.levels = p'.levels := by rw [← levels_text p, ← levels_text p', h]
  cases p
  cases p'
  simpa using hlevels

theorem isConcrete_text (p : Path) : IsConcrete p.text.toList := by
  rw [text, String.toList_ofList, isConcrete_joinLevels]
  exact fun l hl => (p.isLevel l hl).concrete

theorem nil_notMem_levels_text (p : Path) : [] ∉ KeyExpr.levels p.text.toList := by
  rw [p.levels_text]
  exact fun hl => (p.isLevel [] hl).ne_nil rfl

end Path

/-- A text without wildcards and without empty levels is that of its levels. -/
theorem exists_path {s : String} (hconcrete : IsConcrete s.toList)
    (hlevels : [] ∉ levels s.toList) : ∃ p : Path, s = p.text := by
  have hjoin := joinLevels_levels s.toList
  have hlevel : ∀ l ∈ levels s.toList, IsLevel l := by
    intro l hl
    rw [← hjoin, isConcrete_joinLevels] at hconcrete
    refine ⟨?_, separator_notMem hl, hconcrete l hl⟩
    rintro rfl
    exact hlevels hl
  refine ⟨⟨levels s.toList, levels_ne_nil _, hlevel⟩, ?_⟩
  rw [Path.text, hjoin, String.ofList_toList]

theorem text_kinds (s : String) :
    s = "" ∨ ¬ IsConcrete s.toList ∨
      (s ≠ "" ∧ IsConcrete s.toList ∧ IsGapped s.toList) ∨ ∃ p : Path, s = p.text := by
  by_cases hs : s = ""
  · exact .inl hs
  by_cases hconcrete : IsConcrete s.toList
  · by_cases hlevels : [] ∈ levels s.toList
    · have hgapped := ((nil_mem_levels_iff _).1 hlevels).resolve_left (by simpa using hs)
      exact .inr (.inr (.inl ⟨hs, hconcrete, hgapped⟩))
    · exact .inr (.inr (.inr (exists_path hconcrete hlevels)))
  · exact .inr (.inl hconcrete)

theorem validate_wildcard {s : String} (h : ¬ IsConcrete s.toList) :
    validate s = .error (.wildcard s) := by
  have hne : s.toList ≠ [] := by
    intro hs
    rw [hs] at h
    exact h ⟨by simp, by simp, by simp⟩
  rw [isConcrete_iff, Bool.not_eq_false] at h
  rw [validate, if_neg hne, if_pos h]

theorem validate_gapped {s : String} (hs : s ≠ "") (hconcrete : IsConcrete s.toList)
    (h : IsGapped s.toList) : validate s = .error (.emptyLevel s) := by
  have hne : s.toList ≠ [] := by simpa using hs
  have hwild : ¬ s.toList.any isWildcard = true := by simp [isConcrete_iff.1 hconcrete]
  have hany : (levels s.toList).any List.isEmpty = true := by
    simpa using (nil_mem_levels_iff _).2 (.inr h)
  rw [validate, if_neg hne, if_neg hwild, if_pos hany]

theorem validate_path (p : Path) :
    p.text ≠ "" ∧ ¬ IsGapped p.text.toList ∧ validate p.text = .ok () := by
  have hlevels := p.nil_notMem_levels_text
  have hwild : ¬ p.text.toList.any isWildcard = true := by
    simp [isConcrete_iff.1 p.isConcrete_text]
  have hany : ¬ (KeyExpr.levels p.text.toList).any List.isEmpty = true := by simpa using hlevels
  rw [nil_mem_levels_iff, not_or] at hlevels
  refine ⟨by simpa using hlevels.1, hlevels.2, ?_⟩
  rw [validate, if_neg hlevels.1, if_neg hwild, if_neg hany]

/-- **Key-expressions.**  A text passes the check if and only if it is that of levels, at
    least one, each of which has a character and none of `/`, `+`, `#` and `*`, and then of
    those levels only.  The empty text is refused as such and no other.  A text is refused
    for a wildcard exactly if it holds a `+`, `#` or `*`, whatever else is wrong with it.
    It is refused for an empty level exactly if it holds none of these and begins with a
    `/`, ends with one or holds two in a row. -/
theorem key_expressions (s : String) :
    (validate s = .ok () ↔ ∃ p : Path, s = p.text) ∧
    (∀ p p' : Path, s = p.text → s = p'.text → p = p') ∧
    (validate s = .error .empty ↔ s = "") ∧
    (∀ t, validate s = .error (.wildcard t) ↔ t = s ∧ ¬ IsConcrete s.toList) ∧
    (∀ t, validate s = .error (.emptyLevel t) ↔
      t = s ∧ IsConcrete s.toList ∧ IsGapped s.toList) := by
  have hunique : ∀ p p' : Path, s = p.text → s = p'.text → p = p' :=
    fun p p' h h' => Path.text_injective (h.symm.trans h')
  have hpath : (∃ p : Path, s = p.text) →
      s ≠ "" ∧ IsConcrete s.toList ∧ ¬ IsGapped s.toList ∧ validate s = .ok () := by
    rintro ⟨p, rfl⟩
    obtain ⟨hs, hgapped, hv⟩ := validate_path p
    exact ⟨hs, p.isConcrete_text, hgapped, hv⟩
  rcases text_kinds s with rfl | hwild | ⟨hs, hconcrete, hgapped⟩ | hnamed
  · have hv : validate "" = .error .empty := rfl
    have hnot : ∀ p : Path, p.text ≠ "" := fun p h => (hpath ⟨p, h.symm⟩).1 rfl
    have hconcrete : IsConcrete [] := isConcrete_iff.2 rfl
    refine ⟨?_, hunique, ?_, ?_, ?_⟩ <;> simp [hv, hnot, hconcrete, IsGapped]
  · have hv := validate_wildcard hwild
    have hnot : ¬ ∃ p : Path, s = p.text := fun h => hwild (hpath h).2.1
    have hs : s ≠ "" := by
      rintro rfl
      exact hwild (isConcrete_iff.2 rfl)
    refine ⟨?_, hunique, ?_, ?_, ?_⟩ <;> simp [hv, hnot, hwild, hs, eq_comm]
  · have hv := validate_gapped hs hconcrete hgapped
    have hnot : ¬ ∃ p : Path, s = p.text := fun h => (hpath h).2.2.1 hgapped
    refine ⟨?_, hunique, ?_, ?_, ?_⟩ <;> simp [hv, hnot, hs, hconcrete, hgapped, eq_comm]
  · obtain ⟨hs, hconcrete, hgapped, hv⟩ := hpath hnamed
    refine ⟨?_, hunique, ?_, ?_, ?_⟩ <;> simp [hv, hnamed, hs, hconcrete, hgapped]

end SignalActuator.KeyExpr
