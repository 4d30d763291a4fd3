/-
  Moves — systems whose parties move one at a time, in any order.

  A move leads to another state and shows something, or it cannot be made now.
-/
namespace SignalActuator.Moves

variable {μ σ ω : Type}

/-- Makes a move, or passes over one that cannot be made. -/
def make (move : μ → σ → Option (σ × List ω)) (m : μ) (s : σ) : σ × List ω :=
  (move m s).getD (s, [])

def run (move : μ → σ → Option (σ × List ω)) : List μ → σ → σ × List ω
  | [], s => (s, [])
  | m :: ms, s =>
    let (s, os) := make move m s
    let (s, more) := run move ms s
    (s, os ++ more)

/-- Repeats a move until it cannot be made, at most `fuel` times. -/
def settle (move : σ → Option (σ × List ω)) : Nat → σ → σ × List ω
  | 0, s => (s, [])
  | fuel + 1, s =>
    match move s with
    | none => (s, [])
    | some (s, os) =>
      let (s, more) := settle move fuel s
      (s, os ++ more)

end SignalActuator.Moves
