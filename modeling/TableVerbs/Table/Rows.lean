import TableVerbs.Table.Basic

/-!
# Picking rows

Rows are picked by one rearrangement applied to every column and to the labels
alike, so a row keeps its values and its label together. By position a row may
be picked repeatedly and in any order; by a mask rows keep their order.
-/

namespace TableVerbs.Table

/-- Applies a rearrangement of lists to every column and to the labels. -/
def reshape (f : {α : Type} → List α → List α) (t : Table) : Table :=
  { columns := t.columns.map fun c => (c.1, c.2.reshape f)
    labels := f t.labels }

/-- The rows at these positions, which are taken to exist. -/
def gather (positions : List Nat) (t : Table) : Table :=
  t.reshape fun xs => positions.filterMap fun p => xs[p]?

/-- The positions of the first `n` rows, or of all rows if there are fewer. -/
def headPositions (n : Nat) (t : Table) : List Nat := List.range (min n t.rows)

/-- The positions of the last `n` rows, or of all rows if there are fewer. -/
def tailPositions (n : Nat) (t : Table) : List Nat := (List.range t.rows).drop (t.rows - n)

/-- The first `n` rows. -/
def head (n : Nat) (t : Table) : Table := t.gather (t.headPositions n)

/-- The last `n` rows. -/
def tail (n : Nat) (t : Table) : Table := t.gather (t.tailPositions n)

/-- The rows at these positions, in this order. -/
def take (positions : List Nat) (t : Table) : Except Error Table :=
  match positions.find? fun p => t.rows ≤ p with
  | some p => .error (.rowOutOfBounds p t.rows)
  | none => .ok (t.gather positions)

/-- The rows that a mask marks. -/
def filter (mask : List Bool) (t : Table) : Except Error Table :=
  if mask.length ≠ t.rows then .error (.maskLength mask.length t.rows)
  else .ok (t.reshape fun xs =>
    (xs.zip mask).filterMap fun (x, keep) => if keep then some x else none)

end TableVerbs.Table
