/-
  Timestamps — reading back what was written.

  An instant is written as numbers of fixed width between separators, and read in
  the same order; the one part of variable length, the fraction of a second, ends
  where the offset begins.

  * `takeNumber?_padded`: a number of fixed width is read back;
  * `takeFraction?_fractionChars`: a fraction is read back, whichever of the four
    lengths it has been written in, and `length_fractionChars_le`: that is the least
    one that will do;
  * `parse?_toText`: an instant in a year of four digits is read back, to the
    nanosecond and with its leap second.
-/
import SignalActuator.Timestamp
import Mathlib.Algebra.Group.Nat.Defs

namespace SignalActuator.Timestamp

/-! ## Numbers -/

@[simp] theorem length_padded (w n : Nat) : (padded w n).length = w := by
  induction w generalizing n with
  | zero => rfl
  | succ w ih => rw [padded, List.length_append, ih, List.length_singleton]

theorem digit?_ofNat {d : Nat} (h : d < 10) : digit? (Char.ofNat ('0'.toNat + d)) = some d := by
  match d, h with
  | 0, _ | 1, _ | 2, _ | 3, _ | 4, _ | 5, _ | 6, _ | 7, _ | 8, _ | 9, _ => rfl
  | _ + 10, h => exact absurd h (by omega)

theorem number?_append (acc : Nat) (xs ys : List Char) :
    number? acc (xs ++ ys) = (number? acc xs).bind fun n => number? n ys := by
  induction xs generalizing acc with
  | nil => rfl
  | cons x xs ih =>
    simp only [List.cons_append, number?, Option.bind_eq_bind, ih, Option.bind_assoc]

theorem number?_padded {w n : Nat} (acc : Nat) (h : n < 10 ^ w) :
    number? acc (padded w n) = some (acc * 10 ^ w + n) := by
  induction w generalizing n with
  | zero =>
    have : n = 0 := by simpa using h
    simp [padded, number?, this]
  | succ w ih =>
    have hdiv : n / 10 < 10 ^ w := by
      rw [Nat.pow_succ] at h
      omega
    rw [padded, number?_append, ih hdiv]
    simp only [Option.bind_some, number?, digit?_ofNat (Nat.mod_lt n (by decide)),
      Option.bind_eq_bind, Option.some.injEq, Nat.pow_succ]
    generalize 10 ^ w = p
    rw [← Nat.mul_assoc]
    omega

theorem isSome_digit?_of_mem_padded {w n : Nat} {c : Char} (h : c ∈ padded w n) :
    (digit? c).isSome = true := by
  induction w generalizing n with
  | zero => cases h
  | succ w ih =>
    rcases List.mem_append.1 h with h | h
    · exact ih h
    · rw [List.mem_singleton.1 h, digit?_ofNat (Nat.mod_lt n (by decide))]
      rfl

theorem takeNumber?_padded {w n : Nat} (h : n < 10 ^ w) (rest : List Char) :
    takeNumber? w (padded w n ++ rest) = some (n, rest) := by
  have hlength : ¬ (padded w n ++ rest).length < w := by simp
  rw [takeNumber?, if_neg hlength, List.take_left' (length_padded w n),
    List.drop_left' (length_padded w n), number?_padded 0 h]
  simp

theorem takeChar?_self (x : Char) (cs : List Char) : takeChar? x (x :: cs) = some cs :=
  if_pos rfl

/-! ## Fractions -/

section
variable {rest : List Char} (end_ : ∀ c ∈ rest.head?, (digit? c).isSome = false)
include end_

/-- The digits after a point are read up to the first character that is no digit,
    and stand for nanoseconds. -/
theorem takeFraction?_point {w n : Nat} (hw : 0 < w) (hw' : w ≤ 9) (h : n < 10 ^ w) :
    takeFraction? ('.' :: (padded w n ++ rest)) = some (n * 10 ^ (9 - w), rest) := by
  have hrest : rest.takeWhile (fun c => (digit? c).isSome) = [] := by
    cases rest with
    | nil => rfl
    | cons c cs => rw [List.takeWhile_cons, end_ c rfl]; rfl
  have hdigits : (padded w n ++ rest).takeWhile (fun c => (digit? c).isSome) = padded w n := by
    rw [List.takeWhile_append_of_pos fun c hc => isSome_digit?_of_mem_padded hc, hrest,
      List.append_nil]
  have hne : (padded w n).isEmpty = false := by
    rw [← Bool.not_eq_true, List.isEmpty_iff_length_eq_zero, length_padded]
    omega
  have htake : (padded w n).take 9 = padded w n :=
    List.take_of_length_le (by rw [length_padded]; exact hw')
  simp only [takeFraction?, hdigits, hne, htake, number?_padded 0 h, length_padded]
  simp

theorem takeFraction?_fractionChars {n : Nat} (h : n < 1000000000)
    (nopoint : rest.head? ≠ some '.') :
    takeFraction? (fractionChars n ++ rest) = some (n, rest) := by
  unfold fractionChars
  by_cases h0 : n = 0
  · rw [if_pos h0, h0]
    cases rest with
    | nil => rfl
    | cons c cs =>
      have : c ≠ '.' := fun hc => nopoint (by rw [hc]; rfl)
      simp [takeFraction?, this]
  rw [if_neg h0]
  by_cases h6 : n % 1000000 = 0
  · rw [if_pos h6, List.cons_append, takeFraction?_point end_ (by decide) (by decide) (by omega)]
    congr 2
    omega
  rw [if_neg h6]
  by_cases h3 : n % 1000 = 0
  · rw [if_pos h3, List.cons_append, takeFraction?_point end_ (by decide) (by decide) (by omega)]
    congr 2
    omega
  · rw [if_neg h3, List.cons_append, takeFraction?_point end_ (by decide) (by decide) (by omega)]
    simp

end

/-- **A fraction is written as short as can be**: of the numbers of digits 0, 3, 6 and 9
    that lose nothing, it takes the fewest, and a point if there are any. -/
theorem length_fractionChars_le {n w : Nat} (hw : w = 0 ∨ w = 3 ∨ w = 6 ∨ w = 9)
    (hn : n < 1000000000) (lossless : 10 ^ (9 - w) ∣ n) :
    (fractionChars n).length ≤ if w = 0 then 0 else w + 1 := by
  unfold fractionChars
  by_cases h0 : n = 0
  · simp [h0]
  by_cases h6 : n % 1000000 = 0
  · rcases hw with rfl | rfl | rfl | rfl
    · exact absurd (Nat.eq_zero_of_dvd_of_lt lossless hn) h0
    all_goals simp [h0, h6]
  by_cases h3 : n % 1000 = 0
  · rcases hw with rfl | rfl | rfl | rfl
    · exact absurd (Nat.eq_zero_of_dvd_of_lt lossless hn) h0
    · exact absurd (Nat.mod_eq_zero_of_dvd lossless) h6
    all_goals simp [h0, h6, h3]
  · rcases hw with rfl | rfl | rfl | rfl
    · exact absurd (Nat.eq_zero_of_dvd_of_lt lossless hn) h0
    · exact absurd (Nat.mod_eq_zero_of_dvd lossless) h6
    · exact absurd (Nat.mod_eq_zero_of_dvd lossless) h3
    · simp [h0, h6, h3]

/-! ## Instants -/

theorem daysInMonth_le (y : Int) (m : Nat) : daysInMonth y m ≤ 31 := by
  unfold daysInMonth
  repeat' split
  all_goals omega

theorem ofNumbers?_self (d : Date) : Date.ofNumbers? d.year d.month d.day = some d := by
  rw [Date.ofNumbers?, dif_pos d.month_valid, dif_pos d.day_valid]

theorem clock_ofNumbers?_self (c : Clock) :
    Clock.ofNumbers? c.hour c.minute c.second c.nano = some c :=
  dif_pos ⟨c.hour_lt, c.minute_lt, c.second_le, c.nano_lt⟩

theorem ofLocal_zero (d : Date) (c : Clock) : ofLocal d c 0 = ⟨d, c⟩ := by
  have hh := c.hour_lt
  have hm := c.minute_lt
  have hminutes : ((c.hour * 60 + c.minute : Int) - 0) % 1440 = (c.hour * 60 + c.minute : Int) := by
    omega
  have hwrapped : (((c.hour * 60 + c.minute : Int) - 0) % 1440).toNat = c.hour * 60 + c.minute := by
    omega
  simp only [ofLocal, hwrapped, Timestamp.mk.injEq]
  refine ⟨?_, ?_⟩
  · rw [if_neg (by omega), if_neg (by omega)]
  · obtain ⟨hour, minute, second, nano, _, _, _, _⟩ := c
    simp only [Clock.mk.injEq, and_true]
    omega

theorem toChars_of_year {t : Timestamp} (h : 0 ≤ t.date.year ∧ t.date.year ≤ 9999) :
    t.toChars = padded 4 t.date.year.toNat ++ '-' :: (padded 2 t.date.month ++ '-' ::
      (padded 2 t.date.day ++ 'T' :: (padded 2 t.clock.hour ++ ':' ::
        (padded 2 t.clock.minute ++ ':' :: (padded 2 t.clock.second ++
          (fractionChars t.clock.nano ++ ['+', '0', '0', ':', '0', '0'])))))) := by
  simp only [toChars, yearChars, if_pos h, List.append_assoc, List.cons_append]

/-- **An instant in a year of four digits is read back.** -/
theorem parse?_toText {t : Timestamp} (h : 0 ≤ t.date.year ∧ t.date.year ≤ 9999) :
    parse? t.toText = some t := by
  have hmonth := t.date.month_valid
  have hday := Nat.le_trans t.date.day_valid.2 (daysInMonth_le t.date.year t.date.month)
  have hhour := t.clock.hour_lt
  have hminute := t.clock.minute_lt
  have hsecond := t.clock.second_le
  have hyear : ((t.date.year.toNat : Nat) : Int) = t.date.year := Int.toNat_of_nonneg h.1
  have year : t.date.year.toNat < 10 ^ 4 := by omega
  have month : t.date.month < 10 ^ 2 := by omega
  have day : t.date.day < 10 ^ 2 := by omega
  have hour : t.clock.hour < 10 ^ 2 := by omega
  have minute : t.clock.minute < 10 ^ 2 := by omega
  have second : t.clock.second < 10 ^ 2 := by omega
  have fraction : takeFraction? (fractionChars t.clock.nano ++ ['+', '0', '0', ':', '0', '0']) =
      some (t.clock.nano, ['+', '0', '0', ':', '0', '0']) :=
    takeFraction?_fractionChars (fun c hc => by cases hc; rfl) t.clock.nano_lt (by decide)
  have offset : offset? ['+', '0', '0', ':', '0', '0'] = some 0 := by decide
  rw [parse?, toText, String.toList_ofList, toChars_of_year h]
  -- The parts are read one by one, from the year on.
  refine Option.bind_eq_some_iff.2 ⟨_, takeNumber?_padded year _, ?_⟩
  refine Option.bind_eq_some_iff.2 ⟨_, takeChar?_self .., ?_⟩
  refine Option.bind_eq_some_iff.2 ⟨_, takeNumber?_padded month _, ?_⟩
  refine Option.bind_eq_some_iff.2 ⟨_, takeChar?_self .., ?_⟩
  refine Option.bind_eq_some_iff.2 ⟨_, takeNumber?_padded day _, ?_⟩
  refine Option.bind_eq_some_iff.2 ⟨_, by rw [takeChar?_self]; rfl, ?_⟩
  refine Option.bind_eq_some_iff.2 ⟨_, takeNumber?_padded hour _, ?_⟩
  refine Option.bind_eq_some_iff.2 ⟨_, takeChar?_self .., ?_⟩
  refine Option.bind_eq_some_iff.2 ⟨_, takeNumber?_padded minute _, ?_⟩
  refine Option.bind_eq_some_iff.2 ⟨_, takeChar?_self .., ?_⟩
  refine Option.bind_eq_some_iff.2 ⟨_, takeNumber?_padded second _, ?_⟩
  refine Option.bind_eq_some_iff.2 ⟨_, fraction, ?_⟩
  refine Option.bind_eq_some_iff.2 ⟨_, offset, ?_⟩
  rw [hyear]
  refine Option.bind_eq_some_iff.2 ⟨_, ofNumbers?_self _, ?_⟩
  refine Option.bind_eq_some_iff.2 ⟨_, clock_ofNumbers?_self _, ?_⟩
  rw [ofLocal_zero]
  rfl

end SignalActuator.Timestamp
