/-
  Strings read back — a text that is written as a string is read as itself.

  A string is read up to its closing quotes, whatever comes behind them that is
  no quote.

  * `Spelled`: how a text stands between three quotes, where up to two quotes in
    a row stand for themselves, with `Tripled.reads` for both forms of several
    lines;
  * `Style.Fits`: what a form asks of the text, and `Style.of_fits`: the form
    that is chosen for a text asks nothing that the text has not;
  * `string?_quoted`: a written text is read as itself.
-/
import SignalActuator.Toml.Printer
import SignalActuator.Toml.Strings
import Mathlib.Tactic.SplitIfs

namespace SignalActuator.Toml

/-! ## Characters -/

theorem isPlain_of_not_isControl {c : Char} (hc : isControl c = false) (hn : c ≠ '\n') :
    isPlain c = true := by
  simp only [isControl, isPlain] at *
  grind

theorem scalar?_fourDigits : ∀ n < 0x80,
    (fourDigits n).length = 4 ∧ scalar? (fourDigits n) = some (Char.ofNat n) := by
  decide +kernel

theorem escape?_fourDigits {c : Char} (hc : isControl c = true) (cs : List Char) :
    escape? ('u' :: fourDigits c.toNat ++ cs) = some (c, cs) := by
  have hn : c.toNat < 0x80 := by simp only [isControl] at hc; grind
  obtain ⟨hlen, hs⟩ := scalar?_fourDigits c.toNat hn
  match hd : fourDigits c.toNat, hlen with
  | [d₁, d₂, d₃, d₄], _ =>
    rw [hd, Char.ofNat_toNat] at hs
    simp [escape?, hs]

/-- A character other than a double quote is written as itself, or as an escape
    that stands for it. -/
theorem escapeChar_cases (lines : Bool) {c : Char} (hc : c ≠ '"') :
    (escapeChar lines c = [c] ∧ c ≠ '\r' ∧ (isBasic c = true ∨ lines = true ∧ c = '\n')) ∨
      ∃ e, escapeChar lines c = '\\' :: e ∧ ∀ cs, escape? (e ++ cs) = some (c, cs) := by
  unfold escapeChar
  split_ifs with hb ht hn hl hf hr hs hx
  · exact .inr ⟨_, rfl, fun _ => by simp [escape?, hb]⟩
  · exact .inr ⟨_, rfl, fun _ => by simp [escape?, ht]⟩
  · exact .inl ⟨by rw [hn], by simp [hn], .inr ⟨hl, hn⟩⟩
  · exact .inr ⟨_, rfl, fun _ => by simp [escape?, hn]⟩
  · exact .inr ⟨_, rfl, fun _ => by simp [escape?, hf]⟩
  · exact .inr ⟨_, rfl, fun _ => by simp [escape?, hr]⟩
  · exact .inr ⟨_, rfl, fun _ => by simp [escape?, hs]⟩
  · exact .inr ⟨_, rfl, escape?_fourDigits hx⟩
  · have := isPlain_of_not_isControl (by simpa using hx) hn
    exact .inl ⟨rfl, hr, .inl (by simp [isBasic, *])⟩

/-! ## One line -/

theorem basicBody_escape {cs rest : List Char} {c : Char} (h : escape? cs = some (c, rest)) :
    basicBody ('\\' :: cs) = before c (basicBody rest) := by
  rw [basicBody]
  split
  · rename_i h'
    rw [h] at h'
    cases h'
    rfl
  · rename_i h'
    simp [h] at h'

theorem basicBody_basic {c : Char} (hc : isBasic c = true) (cs : List Char) :
    basicBody (c :: cs) = before c (basicBody cs) := by
  have : c ≠ '"' ∧ c ≠ '\\' := by simp_all [isBasic]
  rw [basicBody.eq_4 _ _ (by simp [this]) (by simp [this]), if_pos hc]

theorem basicBody_escapeChar {c : Char} (hc : c ≠ '"') (cs : List Char) :
    basicBody (escapeChar false c ++ cs) = before c (basicBody cs) := by
  obtain ⟨he, -, hb | ⟨hl, -⟩⟩ | ⟨e, he, hr⟩ := escapeChar_cases false hc
  · rw [he]
    exact basicBody_basic hb cs
  · cases hl
  · rw [he]
    exact basicBody_escape (hr cs)

theorem basicBody_escapeFrom (cs rest : List Char) :
    basicBody (escapeFrom false 0 0 cs ++ '"' :: rest) = some (cs, rest) := by
  induction cs with
  | nil => simp [escapeFrom, basicBody]
  | cons c cs ih =>
    rw [escapeFrom]
    by_cases hc : c = '"'
    · have hq : escape? ('"' :: (escapeFrom false 0 0 cs ++ '"' :: rest)) =
          some ('"', escapeFrom false 0 0 cs ++ '"' :: rest) := rfl
      simp only [hc, ↓reduceIte, Nat.lt_irrefl, List.cons_append]
      rw [basicBody_escape hq, ih]
      rfl
    · rw [if_neg hc, List.append_assoc, basicBody_escapeChar hc, ih]
      rfl

theorem literalBody_append {cs : List Char} (h : ∀ c ∈ cs, isLiteral c = true)
    (rest : List Char) : literalBody (cs ++ '\'' :: rest) = some (cs, rest) := by
  induction cs with
  | nil => rfl
  | cons c cs ih =>
    rw [List.forall_mem_cons] at h
    have : c ≠ '\'' := by rintro rfl; exact absurd h.1 (by decide)
    rw [List.cons_append, literalBody.eq_3 _ _ (by simp [this]), if_pos h.1, ih h.2]
    rfl

/-! ## Several lines -/

/-- A reader of a text between three quotes `q` and three more: up to two quotes
    before the last three belong to the text, and so do up to two before any
    other character. -/
structure Tripled (q : Char) (body : Reader (List Char)) : Prop where
  closes : ∀ n ≤ 2, ∀ rest : List Char, rest.head? ≠ some q →
    body (List.replicate (n + 3) q ++ rest) = some (List.replicate n q, rest)
  passes : ∀ n ≤ 2, ∀ {d : Char} {cs s rest : List Char}, d ≠ q →
    body (d :: cs) = some (s, rest) →
    body (List.replicate n q ++ d :: cs) = some (List.replicate n q ++ s, rest)

/-- How a text is spelled for a reader: at most two quotes in a row stand for
    themselves, and every other character has a spelling of its own that begins
    with no quote.  `run` quotes precede. -/
inductive Spelled (q : Char) (body : Reader (List Char)) :
    Nat → List Char → List Char → Prop
  | nil {run} : run ≤ 2 → Spelled q body run [] []
  | quote {run text cs} : Spelled q body (run + 1) text cs →
      Spelled q body run (q :: text) (q :: cs)
  | char {run d x c text cs} : run ≤ 2 → d ≠ q →
      (∀ rest, body (d :: x ++ rest) = before c (body rest)) → Spelled q body 0 text cs →
      Spelled q body run (d :: x ++ text) (c :: cs)

theorem Tripled.reads {q : Char} {body : Reader (List Char)} (ht : Tripled q body)
    {run : Nat} {text cs rest : List Char} (h : Spelled q body run text cs)
    (hrest : rest.head? ≠ some q) :
    body (List.replicate run q ++ (text ++ (List.replicate 3 q ++ rest))) =
      some (List.replicate run q ++ cs, rest) := by
  induction h with
  | nil hrun =>
    rw [List.nil_append, ← List.append_assoc, List.replicate_append_replicate, List.append_nil]
    exact ht.closes _ hrun rest hrest
  | quote _ ih => simpa [List.replicate_succ'] using ih
  | @char run d x c text cs hrun hd hx _ ih =>
    have hbody : body (d :: (x ++ text ++ (List.replicate 3 q ++ rest))) =
        some (c :: cs, rest) := by
      rw [List.append_assoc, ← List.cons_append, hx, show body (text ++ _) = _ from ih]
      rfl
    exact ht.passes run hrun hd hbody

theorem tripled_multilineBasicBody : Tripled '"' multilineBasicBody where
  closes n hn rest hrest := by
    match n, hn with
    | 0, _ | 1, _ | 2, _ => cases rest <;> simp_all [multilineBasicBody]
  passes n hn d cs s rest hd h := by
    match n, hn with
    | 0, _ => exact h
    | 1, _ | 2, _ => simp [multilineBasicBody, before, hd, h]

theorem tripled_multilineLiteralBody : Tripled '\'' multilineLiteralBody where
  closes n hn rest hrest := by
    match n, hn with
    | 0, _ | 1, _ | 2, _ => cases rest <;> simp_all [multilineLiteralBody]
  passes n hn d cs s rest hd h := by
    match n, hn with
    | 0, _ => exact h
    | 1, _ | 2, _ => simp [multilineLiteralBody, before, hd, h]

theorem multilineBasicBody_escape {cs rest : List Char} {c : Char}
    (h : escape? cs = some (c, rest)) :
    multilineBasicBody ('\\' :: cs) = before c (multilineBasicBody rest) := by
  have hb : lineBreak? (skipBlanks cs) = none := by
    unfold escape? at h
    split at h <;> simp_all [skipBlanks, isBlank, lineBreak?]
  rw [multilineBasicBody]
  split
  · rename_i h'
    simp [hb] at h'
  · split
    · rename_i h'
      rw [h] at h'
      cases h'
      rfl
    · rename_i h'
      simp [h] at h'

theorem multilineBasicBody_basic {c : Char} (hc : isBasic c = true ∨ c = '\n')
    (cs : List Char) : multilineBasicBody (c :: cs) = before c (multilineBasicBody cs) := by
  have : c ≠ '"' ∧ c ≠ '\\' ∧ c ≠ '\r' := by
    rcases hc with hc | rfl
    · refine ⟨?_, ?_, ?_⟩ <;>
      · rintro rfl
        exact absurd hc (by decide)
    · decide
  rw [multilineBasicBody.eq_7 _ _ (by simp [this]) (by simp [this]) (by simp [this])
    (by simp [this]) (by simp [this]) (by simp [this]), if_pos (by simpa using hc)]

theorem spelled_escapeFrom (cs : List Char) {run : Nat} (hrun : run ≤ 2) :
    Spelled '"' multilineBasicBody run (escapeFrom true 2 run cs) cs := by
  induction cs generalizing run with
  | nil => exact .nil hrun
  | cons c cs ih =>
    rw [escapeFrom]
    split_ifs with hc hlt
    · rw [hc]
      exact .quote (ih (by omega))
    · rw [hc]
      exact .char (x := ['"']) hrun (by decide) (fun _ => multilineBasicBody_escape rfl)
        (ih (by omega))
    · obtain ⟨he, -, hb⟩ | ⟨e, he, hr⟩ := escapeChar_cases true hc
      · rw [he]
        exact .char (x := []) hrun hc (multilineBasicBody_basic (by simpa using hb)) (ih (by omega))
      · rw [he]
        exact .char hrun (by decide) (fun rest => multilineBasicBody_escape (hr rest))
          (ih (by omega))

theorem multilineLiteralBody_plain {c : Char} (hc : isControl c = false) (hq : c ≠ '\'')
    (cs : List Char) : multilineLiteralBody (c :: cs) = before c (multilineLiteralBody cs) := by
  have hr : c ≠ '\r' := by rintro rfl; exact absurd hc (by decide)
  have hl : isLiteral c = true ∨ c = '\n' := by
    by_cases hn : c = '\n'
    · exact .inr hn
    · exact .inl (by simp [isLiteral, isPlain_of_not_isControl hc hn, hq])
  rw [multilineLiteralBody.eq_6 _ _ (by simp [hq]) (by simp [hq]) (by simp [hq]) (by simp [hq])
    (by simp [hr]), if_pos (by simpa using hl)]

theorem le_longestRunFrom (x : Char) (cs : List Char) (run longest : Nat) :
    longest ≤ longestRunFrom x run longest cs := by
  induction cs generalizing run longest with
  | nil => exact Nat.le_refl _
  | cons c cs ih =>
    rw [longestRunFrom]
    split
    · exact Nat.le_trans (Nat.le_max_left _ _) (ih _ _)
    · exact ih _ _

theorem spelled_self {cs : List Char} (h : ∀ c ∈ cs, isControl c = false) {run longest : Nat}
    (hrun : run ≤ 2) (hlong : longestRunFrom '\'' run longest cs ≤ 2) :
    Spelled '\'' multilineLiteralBody run cs cs := by
  induction cs generalizing run longest with
  | nil => exact .nil hrun
  | cons c cs ih =>
    rw [List.forall_mem_cons] at h
    rw [longestRunFrom] at hlong
    split at hlong
    · rename_i hc
      have := le_longestRunFrom '\'' cs (run + 1) (max longest (run + 1))
      rw [hc]
      exact .quote (ih h.2 (by omega) hlong)
    · rename_i hc
      exact .char (x := []) hrun hc (multilineLiteralBody_plain h.1 hc) (ih h.2 (by omega) hlong)

/-! ## The form of a string -/

theorem not_mem_of_longestRunFrom {x : Char} {cs : List Char} {run longest : Nat}
    (h : longestRunFrom x run longest cs = 0) : x ∉ cs := by
  induction cs generalizing run longest with
  | nil => exact List.not_mem_nil
  | cons c cs ih =>
    rw [longestRunFrom] at h
    split at h
    · have := le_longestRunFrom x cs (run + 1) (max longest (run + 1))
      omega
    · rename_i hc
      rw [List.mem_cons, not_or]
      exact ⟨Ne.symm hc, ih h⟩

/-- What a form asks of a text. -/
def Style.Fits (cs : List Char) : Style → Prop
  | .basic | .multilineBasic => True
  | .literal => ∀ c ∈ cs, isLiteral c = true
  | .multilineLiteral => (∀ c ∈ cs, isControl c = false) ∧ longestRun '\'' cs ≤ 2

theorem Style.of_fits (cs : List Char) : (Style.of cs).Fits cs := by
  unfold Style.of
  dsimp only
  split_ifs with hb hl hm hs hn
  · trivial
  · simp only [Bool.and_eq_true, Bool.not_eq_eq_eq_not, Bool.not_true, List.any_eq_false,
      beq_iff_eq, List.contains_eq_mem, decide_eq_false_iff_not] at hl
    obtain ⟨⟨hcontrol, hquote⟩, hline⟩ := hl
    intro c hc
    have hplain := isPlain_of_not_isControl (by simpa using hcontrol c hc)
      (by rintro rfl; exact hline hc)
    have : c ≠ '\'' := by rintro rfl; exact not_mem_of_longestRunFrom hquote hc
    simp [isLiteral, hplain, this]
  · trivial
  · simpa [Fits] using hs
  · trivial
  · trivial

theorem head?_escapeFrom_basic (cs : List Char) : (escapeFrom false 0 0 cs).head? ≠ some '"' := by
  cases cs with
  | nil => simp [escapeFrom]
  | cons c cs =>
    rw [escapeFrom]
    by_cases hc : c = '"'
    · simp [hc]
    · rw [if_neg hc]
      obtain ⟨he, -⟩ | ⟨e, he, -⟩ := escapeChar_cases false hc <;> simp [he, hc]

theorem head?_escapeFrom_lines (cs : List Char) {rest : List Char} (hrest : rest.head? = some '"') :
    ((escapeFrom true 2 0 cs ++ rest).head? = some '\n' → '\n' ∈ cs) ∧
      (escapeFrom true 2 0 cs ++ rest).head? ≠ some '\r' := by
  cases cs with
  | nil => simp [escapeFrom, hrest]
  | cons c cs =>
    rw [escapeFrom]
    by_cases hc : c = '"'
    · simp [hc]
    · rw [if_neg hc]
      obtain ⟨he, hr, -⟩ | ⟨e, he, -⟩ := escapeChar_cases true hc <;> simp_all

/-- The line break that a form of several lines begins with is dropped again, and
    none of the text is. -/
theorem dropLineBreak_first {cs text : List Char} (hn : text.head? = some '\n' → '\n' ∈ cs)
    (hr : text.head? ≠ some '\r') :
    dropLineBreak ((if cs.contains '\n' then ['\n'] else []) ++ text) = text := by
  split
  · rfl
  · rename_i hc
    cases text with
    | nil => rfl
    | cons c text => simp_all [dropLineBreak, lineBreak?]

theorem string?_write {style : Style} {cs : List Char} (h : style.Fits cs) {rest : List Char}
    (hd : rest.head? ≠ some '"') (hs : rest.head? ≠ some '\'') :
    string? (style.write cs ++ rest) = some (cs, rest) := by
  cases style with
  | basic =>
    have hhead := head?_escapeFrom_basic cs
    -- It does not begin with three quotes, and is not taken for a form of several lines.
    have hshort : ∀ cs', escapeFrom false 0 0 cs ++ '"' :: rest = '"' :: '"' :: cs' → False := by
      intro cs' heq
      cases hc : escapeFrom false 0 0 cs <;> cases rest <;> simp_all
    have hread := basicBody_escapeFrom cs rest
    simp [Style.write, string?.eq_2 _ hshort, hread]
  | literal =>
    have hshort : ∀ cs', cs ++ '\'' :: rest = '\'' :: '\'' :: cs' → False := by
      intro cs' heq
      cases cs <;> cases rest <;> simp_all [Style.Fits, isLiteral]
    simp [Style.write, string?.eq_4 _ hshort, literalBody_append h]
  | multilineBasic =>
    have hread := tripled_multilineBasicBody.reads (spelled_escapeFrom cs (Nat.zero_le 2)) hd
    have hquotes : (List.replicate 3 '"' ++ rest).head? = some '"' := rfl
    obtain ⟨hn, hr⟩ := head?_escapeFrom_lines cs hquotes
    rw [← dropLineBreak_first hn hr] at hread
    simpa [Style.write, string?, List.replicate_succ] using hread
  | multilineLiteral =>
    have hread := tripled_multilineLiteralBody.reads (spelled_self h.1 (Nat.zero_le 2) h.2) hs
    have hn : (cs ++ (List.replicate 3 '\'' ++ rest)).head? = some '\n' → '\n' ∈ cs := by
      cases cs <;> simp_all
    have hr : (cs ++ (List.replicate 3 '\'' ++ rest)).head? ≠ some '\r' := by
      intro heq
      cases cs with
      | nil => simp at heq
      | cons c cs =>
        rw [List.cons_append, List.head?_cons, Option.some.injEq] at heq
        exact absurd (h.1 c List.mem_cons_self) (by rw [heq]; decide)
    rw [← dropLineBreak_first hn hr] at hread
    simpa [Style.write, string?, List.replicate_succ] using hread

/-- **A written text is read as itself.** -/
theorem string?_quoted (s : String) {rest : List Char} (hd : rest.head? ≠ some '"')
    (hs : rest.head? ≠ some '\'') :
    string? ((quoted s).toList ++ rest) = some (s.toList, rest) := by
  rw [quoted, String.toList_ofList]
  exact string?_write (Style.of_fits _) hd hs

end SignalActuator.Toml
