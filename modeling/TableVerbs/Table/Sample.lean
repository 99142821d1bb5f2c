import TableVerbs.Table.Rows

/-!
# Sampling rows

A sample asks for a number of rows or a share of them, with or without putting
rows back, and possibly with weights. This module decides what is asked for and
whether it can be had; which rows are drawn is up to a source of draws that the
caller supplies. `DrawRequest.Possible` says which requests a source can answer, and
only these are made. Of a source as such no more is expected than `Draws.InBounds`,
that its answers are positions there are. One that is made from a random number
generator keeps to amounts, repeats and weights as well, by `Generator.Sound`.
-/

namespace TableVerbs

/-- How many rows a sample has. -/
inductive SampleSize where
  | rows (n : Nat)
  /-- A share of the rows, rounded to the nearest number of rows. -/
  | share (fraction : Float)
deriving DecidableEq

/-- Where the weights of rows come from. -/
inductive Weights where
  | column (name : String)
  | values (weights : List Float)
deriving DecidableEq

/-- What a sample asks for. -/
structure Sample where
  /-- How many rows. -/
  size : SampleSize
  /-- Whether a drawn row is put back. -/
  replace : Bool
  /-- The weights, if rows are not drawn alike. -/
  weights : Option Weights
  /-- A seed for the source of draws. -/
  seed : Option Nat
deriving DecidableEq

/-- A request to a source of draws. -/
structure DrawRequest where
  /-- A seed. -/
  seed : Option Nat
  /-- The number of rows to draw from. -/
  population : Nat
  /-- The number of positions asked for. -/
  amount : Nat
  /-- Whether a position may be drawn again. -/
  replace : Bool
  /-- The weight of each position, if they are not drawn alike. -/
  weights : Option (List Float)
deriving DecidableEq

/-- A source of draws answers a request with positions. -/
abbrev Draws := DrawRequest → List Nat

namespace DrawRequest

/-- The positions that may be drawn at all: all, or those with a positive weight. -/
def eligible (r : DrawRequest) : List Nat :=
  (List.range r.population).filter fun p =>
    match r.weights with
    | none => true
    | some ws => (ws[p]?).any fun w => 0.0 < w

/-- Whether a source can answer: something can be drawn, and without putting
back enough of it. -/
def Possible (r : DrawRequest) : Prop :=
  if r.replace then r.eligible ≠ [] else r.amount ≤ r.eligible.length

end DrawRequest

namespace Sample

/-- The number of rows that a sample asks for. -/
def amount (s : Sample) (population : Nat) : Except Error Nat :=
  match s.size with
  | .rows n => .ok n
  | .share f =>
    if f.isFinite && 0.0 ≤ f then .ok (f * Float.ofNat population).round.toUInt64.toNat
    else .error (.badFraction f)

/-- The weights of the rows of a table. -/
def weightsOn (s : Sample) (t : Table) : Except Error (Option (List Float)) :=
  match s.weights with
  | none => .ok none
  | some (.values ws) => .ok (some ws)
  | some (.column name) =>
    match t.column name with
    | .error e => .error e
    | .ok c => c.toFloats.map some

/-- Whether a number can be a weight. -/
def isWeight (w : Float) : Bool := w.isFinite && !(w < 0.0)

/-- What weights stand against a sample of this amount, if anything does. -/
def weightFault? (s : Sample) (population amount : Nat) (ws : List Float) : Option Error :=
  if ws.length ≠ population then some (.weightsLength ws.length population)
  else if !ws.all isWeight then some .badWeights
  else if amount = 0 then none
  else
    let positive := ws.countP fun w => 0.0 < w
    if s.replace then
      if ws.isEmpty then some .noWeights
      else if positive = 0 then some .zeroWeights
      else none
    else if positive < amount then some (.tooFewWeights positive amount)
    else none

/-- The positions that a sample draws from a table. -/
def positions (s : Sample) (draws : Draws) (t : Table) : Except Error (List Nat) :=
  match s.amount t.rows with
  | .error e => .error e
  | .ok amount =>
    if s.replace = false ∧ t.rows < amount then .error (.tooFewRows amount t.rows)
    else
      match s.weightsOn t with
      | .error e => .error e
      | .ok weights =>
        match weights.bind (s.weightFault? t.rows amount) with
        | some e => .error e
        | none =>
          if amount = 0 ∨ t.rows = 0 then .ok []
          else .ok (draws ⟨s.seed, t.rows, amount, s.replace, weights⟩)

end Sample

/-- The rows that a sample draws from a table, in the order drawn. -/
def Table.sample (s : Sample) (draws : Draws) (t : Table) : Except Error Table :=
  (s.positions draws t).map fun positions => t.gather positions

end TableVerbs
