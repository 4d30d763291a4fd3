/-
  Numbers read back — a natural that is written in decimal digits is read as
  itself, if it is below `integerLimit`.

  The reader of numbers tries a date and a time first, and takes a number as far
  as it goes; what ends a value in a document is no part of a number.

  * `IsEnd`: what may come right behind a value;
  * `moment_digits`: digits alone begin neither a date nor a time;
  * `scalar_toString`: a written natural is read as itself.
-/
import SignalActuator.Toml.Reader

namespace SignalActuator.Toml

/-- The integers of a document lie below this, and not below its opposite. -/
def integerLimit : Nat := Nat.pow 2 63

/-- A character that may come right behind a value. -/
def IsEnd (c : Char) : Prop :=
  c = '\n' ∨ c = ',' ∨ c = ']'

theorem IsEnd.not_digit {c : Char} (h : IsEnd c) : isDigitOf 10 c = false := by
  rcases h with rfl | rfl | rfl <;> decide

/-! ## Digits -/

theorem digitChar_reads : ∀ d < 10,
    isDigitOf 10 d.digitChar = true ∧ hexDigit? d.digitChar = some d := by
  decide

theorem isDigitOf_of_mem_toDigits {n : Nat} :
    ∀ c ∈ Nat.toDigits 10 n, isDigitOf 10 c = true := by
  induction n using Nat.base_induction 10 (by decide) with
  | single m hm => simpa [Nat.toDigits_of_lt_base hm] using (digitChar_reads m hm).1
  | digit m k hk hm ih =>
    intro c hc
    rw [← Nat.toDigits_append_toDigits (by decide) hm hk, List.mem_append,
      Nat.toDigits_of_lt_base hk, List.mem_singleton] at hc
    rcases hc with hc | rfl
    · exact ih c hc
    · exact (digitChar_reads k hk).1

theorem digitsValue_toDigits (n : Nat) : digitsValue 10 (Nat.toDigits 10 n) = n := by
  induction n using Nat.base_induction 10 (by decide) with
  | single m hm => simp [Nat.toDigits_of_lt_base hm, digitsValue, (digitChar_reads m hm).2]
  | digit m k hk hm ih =>
    rw [← Nat.toDigits_append_toDigits (by decide) hm hk, Nat.toDigits_of_lt_base hk]
    simp only [digitsValue, List.foldl_append, List.foldl_cons, List.foldl_nil,
      (digitChar_reads k hk).2, Option.getD_some] at ih ⊢
    rw [ih]
    omega

theorem head?_toDigits {n : Nat} (hn : n ≠ 0) : (Nat.toDigits 10 n).head? ≠ some '0' := by
  induction n using Nat.base_induction 10 (by decide) with
  | single m hm => simpa [Nat.toDigits_of_lt_base hm] using hn
  | digit m k hk hm ih =>
    rw [← Nat.toDigits_append_toDigits (by decide) hm hk,
      List.head?_append, Option.or_of_isSome (by simp)]
    exact ih (by omega)

section

variable {ds rest : List Char} {c : Char} (hds : ∀ d ∈ ds, isDigitOf 10 d = true)
  (hc : isDigitOf 10 c = false)

include hds hc

theorem digitTail_append (hu : c ≠ '_') :
    digitTail 10 (ds ++ c :: rest) = some (ds, c :: rest) := by
  induction ds with
  | nil => rw [List.nil_append, digitTail.eq_3 _ _ _ (by simp [hu]), if_neg hu, hc]; rfl
  | cons d ds ih =>
    rw [List.forall_mem_cons] at hds
    have hd : d ≠ '_' := by rintro rfl; exact absurd hds.1 (by decide)
    rw [List.cons_append, digitTail.eq_3 _ _ _ (by simp [hd]), if_neg hd, if_pos hds.1, ih hds.2]
    rfl

theorem dropWhile_digits : (ds ++ c :: rest).dropWhile (isDigitOf 10) = c :: rest := by
  rw [List.dropWhile_append_of_pos hds, List.dropWhile_cons_of_neg (by simp [hc])]

/-- Where a run of digits ends does not depend on how it is taken apart. -/
theorem end_of_digits {ds' rest' : List Char} {c' : Char}
    (hds' : ∀ d ∈ ds', isDigitOf 10 d = true) (hc' : isDigitOf 10 c' = false)
    (h : ds ++ c :: rest = ds' ++ c' :: rest') : c = c' := by
  have hdrop := congrArg (List.dropWhile (isDigitOf 10)) h
  rw [dropWhile_digits hds hc, dropWhile_digits hds' hc'] at hdrop
  exact (List.cons.inj hdrop).1

/-! ## Moments -/

theorem date_digits (hm : c ≠ '-') : date (ds ++ c :: rest) = .other := by
  unfold date
  split
  · rename_i y₁ y₂ y₃ y₄ cs heq
    refine if_neg fun hall => hm ?_
    have hy : ∀ d ∈ [y₁, y₂, y₃, y₄], isDigitOf 10 d = true := by simpa using hall
    exact end_of_digits hds hc hy (by decide) heq
  · rfl

omit hds hc in
theorem digits_of_twoDigits {low high n : Nat} {cs rest : List Char}
    (h : twoDigits low high cs = some (n, rest)) :
    ∃ ds, (∀ d ∈ ds, isDigitOf 10 d = true) ∧ cs = ds ++ rest := by
  unfold twoDigits at h
  split at h
  · rename_i a b cs
    refine ⟨[a, b], ?_, ?_⟩ <;> simp_all
  · cases h

theorem timeOfDay_digits (ht : c ≠ ':') : timeOfDay (ds ++ c :: rest) = .other := by
  unfold timeOfDay
  split
  · rename_i n cs heq
    obtain ⟨ds', hds', h⟩ := digits_of_twoDigits heq
    exact absurd (end_of_digits hds hc hds' (by decide) h) ht
  · rfl

/-- Digits alone begin neither a date nor a time. -/
theorem moment_digits (hm : c ≠ '-') (ht : c ≠ ':') : moment (ds ++ c :: rest) = .other := by
  rw [moment, date_digits hds hc hm]
  exact timeOfDay_digits hds hc ht

end

/-! ## Numbers -/

/-- The digits of a number begin with a digit, and with a zero only if they are
    no more than that. -/
theorem toDigits_cases (n : Nat) :
    Nat.toDigits 10 n = ['0'] ∨
      ∃ d ds, Nat.toDigits 10 n = d :: ds ∧ d ≠ '0' ∧ isDigitOf 10 d = true := by
  by_cases hn : n = 0
  · exact .inl (by rw [hn]; rfl)
  · cases h : Nat.toDigits 10 n with
    | nil => exact absurd h Nat.toDigits_ne_nil
    | cons d ds =>
      have hd := head?_toDigits hn
      have hdigit := isDigitOf_of_mem_toDigits (n := n) d (by simp [h])
      exact .inr ⟨d, ds, rfl, by simpa [h] using hd, hdigit⟩

theorem decimalRun_toDigits (n : Nat) {c : Char} (hc : IsEnd c) (rest : List Char) :
    decimalRun (Nat.toDigits 10 n ++ c :: rest) = some (Nat.toDigits 10 n, c :: rest) := by
  have hds := isDigitOf_of_mem_toDigits (n := n)
  obtain h | ⟨d, ds, h, hd, hdigit⟩ := toDigits_cases n
  · rw [h]
    rfl
  · rw [h] at hds ⊢
    have hu : c ≠ '_' := by rcases hc with rfl | rfl | rfl <;> decide
    have htail : digitTail 10 (ds ++ c :: rest) = some (ds, c :: rest) :=
      digitTail_append (List.forall_mem_cons.1 hds).2 hc.not_digit hu
    rw [List.cons_append, decimalRun.eq_2 _ (by simp [hd]), digitRun, if_pos hdigit, htail]
    rfl

theorem decimal?_toDigits {n : Nat} (hn : n < integerLimit) {c : Char} (hc : IsEnd c)
    (rest : List Char) :
    decimal? false (Nat.toDigits 10 n ++ c :: rest) = some (.integer n, c :: rest) := by
  have hi : integer? false n = some (.integer n) := if_pos hn
  simp only [decimal?, decimalRun_toDigits n hc rest, Option.bind_eq_bind, Option.bind_some,
    digitsValue_toDigits]
  rcases hc with rfl | rfl | rfl <;> simp [hasExponent, hi]

theorem number?_toDigits {n : Nat} (hn : n < integerLimit) {c : Char} (hc : IsEnd c)
    (rest : List Char) :
    number? (Nat.toDigits 10 n ++ c :: rest) = some (.integer n, c :: rest) := by
  have hread := decimal?_toDigits hn hc rest
  obtain h | ⟨d, ds, h, hd, hdigit⟩ := toDigits_cases n
  · rw [h] at hread ⊢
    rcases hc with rfl | rfl | rfl <;> simpa [number?, sign] using hread
  · have hne : ∀ x, isDigitOf 10 x = false → d ≠ x := by rintro x hx rfl; simp_all
    rw [h] at hread ⊢
    simpa [number?, sign, hd, hne '-' (by decide), hne '+' (by decide), hne 'i' (by decide),
      hne 'n' (by decide)] using hread

/-- **A written natural is read as itself.** -/
theorem scalar_toString {n : Nat} (hn : n < integerLimit) {c : Char} (hc : IsEnd c)
    (rest : List Char) :
    scalar ((toString n).toList ++ c :: rest) = some (.integer n, c :: rest) := by
  rw [Nat.toString_eq_repr, Nat.toList_repr]
  have hm : c ≠ '-' ∧ c ≠ ':' := by rcases hc with rfl | rfl | rfl <;> decide
  have hmoment : moment (Nat.toDigits 10 n ++ c :: rest) = .other :=
    moment_digits isDigitOf_of_mem_toDigits hc.not_digit hm.1 hm.2
  have hread := number?_toDigits hn hc rest
  have hds := isDigitOf_of_mem_toDigits (n := n)
  cases h : Nat.toDigits 10 n with
  | nil => exact absurd h Nat.toDigits_ne_nil
  | cons d ds =>
    rw [h] at hread hmoment hds
    have hd : isDigitOf 10 d = true := hds d List.mem_cons_self
    have hne : ∀ x, isDigitOf 10 x = false → d ≠ x := by rintro x hx rfl; simp_all
    rw [List.cons_append, scalar.eq_5 _ _ (by simp [hne '"' (by decide)])
      (by simp [hne '\'' (by decide)]) (by simp [hne 't' (by decide)])
      (by simp [hne 'f' (by decide)]), if_pos (.inl hd), ← List.cons_append, hmoment]
    exact hread

end SignalActuator.Toml
