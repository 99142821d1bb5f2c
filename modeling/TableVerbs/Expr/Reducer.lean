import TableVerbs.Expr.Scope

/-!
# Reducers

The functions that summaries have in scope: a column goes in, and one cell comes
out, or, for the running sum, a column of the same length. A cell in the place
of the column counts as a column of one row.

Integer sums are exact or fail, at the first partial sum that does not fit; so
the sum and the running sum of a column fail together. Sums of floats are
rounded in a fixed grouping. What a position or an average of no rows gives is a
NaN, which stands for a missing value; an extreme of no rows is an error.
-/

namespace TableVerbs.Reducer

/-- The NaN that stands for a missing float. -/
def noFloat : Float := 0.0 / 0.0

/-- The first argument as a column, for a function of so many arguments. -/
def columnOf (name : String) (arity : Nat) (args : List Datum) : Except Error Column :=
  match args with
  | a :: _ =>
    if args.length = arity then .ok a.asColumn
    else .error (.reducerArguments name arity args.length)
  | [] => .error (.reducerArguments name arity 0)

/-- A function of a column that gives a cell. -/
def ofColumn (name : String) (f : Column → Except Error Cell) : Function := fun args =>
  match columnOf name 1 args with
  | .error e => .error e
  | .ok c => (f c).map .cell

/-! ## Extremes -/

/-- The least or greatest of some cells, by their order. -/
def extremeCell (after : Ordering) : List Cell → Option Cell
  | [] => none
  | v :: vs => some (vs.foldl (fun best x => if best.order x = after then x else best) v)

/-- The greatest of some numbers; of two equal ones, the earlier. -/
def greatest (xs : List Float) : Float :=
  xs.foldl (fun best x => if best < x then x else best) (-(1.0 / 0.0))

/-- The least of some numbers; of two equal ones, the earlier. -/
def least (xs : List Float) : Float :=
  xs.foldl (fun best x => if x < best then x else best) (1.0 / 0.0)

/-- The extreme of a column: `pick` chooses among floats, and among other cells
the one that lies `after` all others. A NaN anywhere is the answer. -/
def extreme (name : String) (pick : List Float → Float) (after : Ordering) (c : Column) :
    Except Error Cell :=
  match c with
  | .floats [] => .error (.emptyReduction name)
  | .floats xs => .ok (.float (if xs.any Float.isNaN then noFloat else pick xs))
  | c =>
    match extremeCell after c.cells with
    | some v => .ok v
    | none => .error (.emptyReduction name)

/-! ## Sums -/

/-- The exact sum of integers, if every partial sum fits. -/
def sumInts? (xs : List Int64) : Option Int64 := xs.foldlM Number.add? 0

/-- The sum of a column; truth values are counted. -/
def sum : Column → Except Error Cell
  | .ints xs =>
    match sumInts? xs with
    | some n => .ok (.int n)
    | none => .error .sumOverflow
  | .floats xs => .ok (.float (Number.sum xs))
  | .bools xs => .ok (.int (Int64.ofNat (xs.count true)))
  | .strs _ => .error .sumOfText

/-- The running sums of integers, if they all fit. -/
def runningInts? (total : Int64) : List Int64 → Option (List Int64)
  | [] => some []
  | x :: xs =>
    match Number.add? total x with
    | none => none
    | some next => (runningInts? next xs).map (next :: ·)

/-- The running sums of a list under an addition that always has a result. -/
def running (add : β → α → β) (total : β) : List α → List β
  | [] => []
  | x :: xs => add total x :: running add (add total x) xs

/-- The running sums of a column; truth values are counted. -/
def cumsum : Column → Except Error Column
  | .ints xs =>
    match runningInts? 0 xs with
    | some sums => .ok (.ints sums)
    | none => .error .cumsumOverflow
  | .floats xs => .ok (.floats (running (· + ·) 0.0 xs))
  | .bools xs => .ok (.ints (running (fun n b => n + Cell.bit b) 0 xs))
  | .strs _ => .error .cumsumOfText

/-! ## Averages -/

/-- The mean of some floats. -/
def meanOf (xs : List Float) : Float :=
  if xs.isEmpty then noFloat else Number.sum xs / Float.ofNat xs.length

/-- The number in the middle once they are sorted, or the mean of the two there. -/
def medianOf (xs : List Float) : Float :=
  if xs.isEmpty || xs.any Float.isNaN then noFloat
  else
    let sorted := xs.mergeSort Number.notAfter
    let middle := sorted.length / 2
    if sorted.length % 2 = 0
    then (sorted.getD (middle - 1) noFloat + sorted.getD middle noFloat) / 2.0
    else sorted.getD middle noFloat

/-- The square root of the mean squared distance from the mean. -/
def deviationOf (xs : List Float) : Float :=
  if xs.isEmpty then noFloat
  else
    let mean := meanOf xs
    let squares := xs.map fun x => (x - mean) * (x - mean)
    (squares.foldl (· + ·) 0.0 / Float.ofNat xs.length).sqrt

/-- A function of the values as floats. -/
def ofFloats (f : List Float → Float) (c : Column) : Except Error Cell :=
  c.toFloats.map fun xs => .float (f xs)

/-! ## Positions -/

/-- The value in a row, a negative row counting from the end. -/
def element (c : Column) (row : Int) : Cell :=
  let position := if row < 0 then (c.length : Int) + row else row
  if position < 0 then .missing else (c.get? position.toNat).getD .missing

/-- The function `nth`. -/
def nth : Function := fun args =>
  match columnOf "nth" 2 args, args with
  | .error e, _ => .error e
  | .ok c, [_, .cell (.int row)] => .ok (.cell (element c row.toInt))
  | .ok _, _ => .error .nthPosition

/-- The function `cumsum`. -/
def runningSum : Function := fun args =>
  match columnOf "cumsum" 1 args with
  | .error e => .error e
  | .ok c => (cumsum c).map .column

/-- How many different values a column has. -/
def distinct (c : Column) : Except Error Cell :=
  .ok (.int (Int64.ofNat (Cell.distinctCount c.cells)))

/-- All reducers, by name. -/
def all : Names :=
  [("min", ofColumn "min" (extreme "min" least .gt)),
   ("max", ofColumn "max" (extreme "max" greatest .lt)),
   ("sum", ofColumn "sum" sum),
   ("cumsum", runningSum),
   ("mean", ofColumn "mean" (ofFloats meanOf)),
   ("median", ofColumn "median" (ofFloats medianOf)),
   ("std", ofColumn "std" (ofFloats deviationOf)),
   ("first", ofColumn "first" fun c => .ok (element c 0)),
   ("last", ofColumn "last" fun c => .ok (element c (-1))),
   ("nth", nth),
   ("n_distinct", ofColumn "n_distinct" distinct),
   ("n_unique", ofColumn "n_distinct" distinct)]

end TableVerbs.Reducer
