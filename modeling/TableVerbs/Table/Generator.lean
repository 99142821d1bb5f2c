import TableVerbs.Table.Sample

/-!
# Draws from a random number generator

A generator has a state and four operations, one for each kind of draw: alike or
by weight, and with or without putting back. Without putting back it draws all
positions at once, since each of them depends on the others. With putting back
it draws one position at a time, and a request for several is that many draws
in a row.

What the operations do is up to the generator. `Generator.Sound` is what one
counts on, each operation being asked only for what it can do: a position is
one of those there are, positions drawn at once are different and as many as
asked for, and where there are weights, a position of weight zero is not drawn.
-/

namespace TableVerbs

/-- A random number generator with states of some type. -/
structure Generator (State : Type) where
  /-- The state to begin with, which a seed settles. -/
  start : Option Nat → State
  /-- A position below a bound, and the next state. -/
  position : Nat → State → Nat × State
  /-- An amount of positions below a bound. -/
  positions : Nat → Nat → State → List Nat
  /-- A position by weight, and the next state. -/
  weighted : List Float → State → Nat × State
  /-- An amount of positions by weight. -/
  weightedPositions : List Float → Nat → State → List Nat

namespace Generator

variable {State : Type}

/-- Draws one position after another. -/
def drawEach (draw : State → Nat × State) : Nat → State → List Nat
  | 0, _ => []
  | n + 1, state => (draw state).1 :: drawEach draw n (draw state).2

/-- The source of draws that a generator makes. -/
def draws (g : Generator State) : Draws := fun r =>
  match r.weights, r.replace with
  | none, true => drawEach (g.position r.population) r.amount (g.start r.seed)
  | none, false => g.positions r.population r.amount (g.start r.seed)
  | some ws, true => drawEach (g.weighted ws) r.amount (g.start r.seed)
  | some ws, false => g.weightedPositions ws r.amount (g.start r.seed)

/-- A position has a weight, and not a weight of zero. -/
def Weighs (weights : List Float) (p : Nat) : Prop := ∃ w, weights[p]? = some w ∧ 0.0 < w

/-- What one counts on in a generator. -/
structure Sound (g : Generator State) : Prop where
  position : ∀ n state, 0 < n → (g.position n state).1 < n
  positions : ∀ n amount state, amount ≤ n →
    (g.positions n amount state).length = amount ∧ (g.positions n amount state).Nodup ∧
      ∀ p ∈ g.positions n amount state, p < n
  weighted : ∀ ws state, ws.all Sample.isWeight = true → (∃ w ∈ ws, 0.0 < w) →
    Weighs ws (g.weighted ws state).1
  weightedPositions : ∀ ws amount state, ws.all Sample.isWeight = true →
    (amount ≤ ws.countP fun w => 0.0 < w) →
      (g.weightedPositions ws amount state).length = amount ∧
        (g.weightedPositions ws amount state).Nodup ∧
        ∀ p ∈ g.weightedPositions ws amount state, Weighs ws p

end Generator

end TableVerbs
