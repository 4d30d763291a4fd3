/-
  Moves — what holds of a run because it holds of every move.

  * `run_invariant`: what holds at first and is kept by every move holds at any time;
  * `run_alike`: what relates two systems at first and is kept whenever both make a move
    relates their runs;
  * `settle_eq_run`: to settle is to make one move again and again.
-/
import SignalActuator.Moves

namespace SignalActuator.Moves

variable {μ σ τ ω ω' : Type} {move : μ → σ → Option (σ × List ω)}
  {move' : μ → τ → Option (τ × List ω')} {m : μ} {s s' : σ} {os : List ω}

theorem make_some (h : move m s = some (s', os)) : make move m s = (s', os) := by
  rw [make, h, Option.getD_some]

theorem make_none (h : move m s = none) : make move m s = (s, []) := by
  rw [make, h, Option.getD_none]

theorem run_cons (move : μ → σ → Option (σ × List ω)) (m : μ) (ms : List μ) (s : σ) :
    run move (m :: ms) s =
      let r := make move m s
      let rest := run move ms r.1
      (rest.1, r.2 ++ rest.2) :=
  rfl

theorem run_cons_some (h : move m s = some (s', os)) (ms : List μ) :
    run move (m :: ms) s = ((run move ms s').1, os ++ (run move ms s').2) := by
  rw [run_cons, make_some h]

theorem run_cons_none (h : move m s = none) (ms : List μ) :
    run move (m :: ms) s = run move ms s := by
  rw [run_cons, make_none h]
  rfl

theorem run_append (move : μ → σ → Option (σ × List ω)) (ms ns : List μ) (s : σ) :
    run move (ms ++ ns) s =
      let r := run move ms s
      let rest := run move ns r.1
      (rest.1, r.2 ++ rest.2) := by
  induction ms generalizing s with
  | nil => rfl
  | cons m ms ih => simp only [List.cons_append, run_cons, ih, List.append_assoc]

/-- What holds at first and is kept by every move of a kind holds after moves of that
    kind. -/
theorem run_invariant_of {P : σ → List ω → Prop} {Q : μ → Prop}
    (step : ∀ {s : σ} {past : List ω} {m : μ} {s' : σ} {os : List ω},
      P s past → Q m → move m s = some (s', os) → P s' (past ++ os))
    (ms : List μ) (hms : ∀ m ∈ ms, Q m) (past : List ω) (h : P s past) :
    P (run move ms s).1 (past ++ (run move ms s).2) := by
  induction ms generalizing s past with
  | nil => simpa only [run, List.append_nil] using h
  | cons m ms ih =>
    obtain ⟨hm, hms⟩ := List.forall_mem_cons.1 hms
    have now : P (make move m s).1 (past ++ (make move m s).2) := by
      rcases hmove : move m s with _ | ⟨s', os⟩
      · rw [make_none hmove, List.append_nil]
        exact h
      · rw [make_some hmove]
        exact step h hm hmove
    have later := ih hms _ now
    rwa [List.append_assoc] at later

/-- What holds at first and is kept by every move holds at any time. -/
theorem run_invariant {P : σ → List ω → Prop}
    (step : ∀ {s : σ} {past : List ω} {m : μ} {s' : σ} {os : List ω},
      P s past → move m s = some (s', os) → P s' (past ++ os))
    (ms : List μ) (past : List ω) (h : P s past) :
    P (run move ms s).1 (past ++ (run move ms s).2) :=
  run_invariant_of (Q := fun _ => True) (fun h _ hm => step h hm) ms (fun _ _ => trivial) past h

/-- What relates two systems at first and is kept whenever both make a move, or pass over
    it, relates them at any time. -/
theorem run_alike {R : σ × List ω → τ × List ω' → Prop}
    (step : ∀ {s : σ} {past : List ω} {t : τ} {past' : List ω'} (m : μ),
      R (s, past) (t, past') →
        R ((make move m s).1, past ++ (make move m s).2)
          ((make move' m t).1, past' ++ (make move' m t).2))
    (ms : List μ) (past : List ω) {t : τ} (past' : List ω') (h : R (s, past) (t, past')) :
    R ((run move ms s).1, past ++ (run move ms s).2)
      ((run move' ms t).1, past' ++ (run move' ms t).2) := by
  induction ms generalizing s past t past' with
  | nil => simpa only [run, List.append_nil] using h
  | cons m ms ih =>
    have later := ih _ _ (step m h)
    rwa [List.append_assoc, List.append_assoc] at later

/-! ## Settling -/

section
variable {once : σ → Option (σ × List ω)}

theorem settle_none (h : once s = none) (fuel : Nat) : settle once fuel s = (s, []) := by
  cases fuel with
  | zero => rfl
  | succ fuel => rw [settle, h]

theorem settle_some (h : once s = some (s', os)) (fuel : Nat) :
    settle once (fuel + 1) s =
      ((settle once fuel s').1, os ++ (settle once fuel s').2) := by
  rw [settle, h]

end

theorem run_replicate_none (h : move m s = none) (n : Nat) :
    run move (.replicate n m) s = (s, []) := by
  induction n with
  | zero => rfl
  | succ n ih => rw [List.replicate_succ, run_cons_none h, ih]

/-- To settle is to make one move again and again. -/
theorem settle_eq_run (move : μ → σ → Option (σ × List ω)) (m : μ) (fuel : Nat) (s : σ) :
    settle (move m) fuel s = run move (.replicate fuel m) s := by
  induction fuel generalizing s with
  | zero => rfl
  | succ fuel ih =>
    rcases hm : move m s with _ | ⟨s', os⟩
    · rw [settle_none hm, run_replicate_none hm]
    · rw [settle_some hm, List.replicate_succ, run_cons_some hm, ih]

end SignalActuator.Moves
