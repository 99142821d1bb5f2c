import TableVerbs.Error

/-!
# Columns

A column is a list of values of one type. What rearranges rows (picking,
filtering) is the same function on all four types and is written once, through
`reshape`; what looks at values goes through `cells`.

A column built from loose cells takes the type that they share, and integers
join floats as floats. No cells at all make an empty column of floats.
-/

namespace TableVerbs

/-- A column: values of one type, one for each row. -/
inductive Column where
  | ints (values : List Int64)
  | floats (values : List Float)
  | bools (values : List Bool)
  | strs (values : List String)
deriving DecidableEq

namespace Column

/-- The number of values. -/
def length : Column → Nat
  | .ints xs => xs.length
  | .floats xs => xs.length
  | .bools xs => xs.length
  | .strs xs => xs.length

/-- The type of the values. -/
def type : Column → CellType
  | .ints _ => .int
  | .floats _ => .float
  | .bools _ => .bool
  | .strs _ => .str

/-- The column of a type without values. -/
def empty : CellType → Column
  | .int => .ints []
  | .float => .floats []
  | .bool => .bools []
  | .str => .strs []

/-- The values as cells. -/
def cells : Column → List Cell
  | .ints xs => xs.map .int
  | .floats xs => xs.map .float
  | .bools xs => xs.map .bool
  | .strs xs => xs.map .str

/-- The value in a row, if there is such a row. -/
def get? (c : Column) (row : Nat) : Option Cell := c.cells[row]?

/-! ## Rearranging rows -/

/-- Applies a rearrangement of lists, whatever the type of the values. -/
def reshape (f : {α : Type} → List α → List α) : Column → Column
  | .ints xs => .ints (f xs)
  | .floats xs => .floats (f xs)
  | .bools xs => .bools (f xs)
  | .strs xs => .strs (f xs)

/-- The rows at these positions, in this order; a position may come repeatedly.
Positions beyond the end contribute nothing. -/
def take (positions : List Nat) (c : Column) : Column :=
  c.reshape fun xs => positions.filterMap fun p => xs[p]?

/-- The rows whose entry in the mask is true. Rows without an entry are
dropped, as are entries without a row. -/
def filter (mask : List Bool) (c : Column) : Column :=
  c.reshape fun xs => (xs.zip mask).filterMap fun (x, keep) => if keep then some x else none

/-- A column that repeats one cell. -/
def replicate (n : Nat) : Cell → Column
  | .int v => .ints (List.replicate n v)
  | .float v => .floats (List.replicate n v)
  | .bool v => .bools (List.replicate n v)
  | .str v => .strs (List.replicate n v)

/-! ## Building and converting -/

/-- Whether a cell is an integer or a float. -/
def isNumber (c : Cell) : Bool := c.type == .int || c.type == .float

/-- The column of some cells, of the type that they share. -/
def ofCells (cells : List Cell) : Except Error Column :=
  if cells.isEmpty then .ok (.floats [])
  else if cells.all (·.type == .int) then .ok (.ints (cells.filterMap Cell.int?))
  else if cells.all isNumber then .ok (.floats (cells.filterMap Cell.float?))
  else if cells.all (·.type == .bool) then .ok (.bools (cells.filterMap Cell.bool?))
  else if cells.all (·.type == .str) then .ok (.strs (cells.filterMap Cell.str?))
  else .error .mixedCells

/-- The values as floats; truth values count as 1 and 0. -/
def toFloats : Column → Except Error (List Float)
  | .ints xs => .ok (xs.map Number.toFloat)
  | .floats xs => .ok xs
  | .bools xs => .ok (xs.map fun b => if b then 1.0 else 0.0)
  | .strs _ => .error .notNumeric

/-- Whether the column stands for missing values: floats, at least one of them
and none a number. A reduction that runs out of rows gives such a column. -/
def isMissing : Column → Bool
  | .floats xs => !xs.isEmpty && xs.all Float.isNaN
  | .ints _ | .bools _ | .strs _ => false

/-- Whether two columns have one type and equal values, floats as numbers: a NaN
is never equal, and the two zeros are. -/
def agrees : Column → Column → Bool
  | .ints xs, .ints ys => xs == ys
  | .floats xs, .floats ys => xs.length == ys.length && (xs.zip ys).all fun (x, y) => x == y
  | .bools xs, .bools ys => xs == ys
  | .strs xs, .strs ys => xs == ys
  | _, _ => false

end Column

end TableVerbs
