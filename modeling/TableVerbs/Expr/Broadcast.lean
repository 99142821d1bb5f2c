import TableVerbs.Expr.CellOps
import TableVerbs.Expr.Datum

/-!
# Operators on columns

An operator is applied row by row, a cell standing in every row. The results of
the rows make a column of the type that they share; where there are no rows to
tell a type, a predicate gives an empty column of truth values and any other
operator one of its operand's type.
-/

namespace TableVerbs

/-- The column of some results, of type `otherwise` if there are none. -/
def Column.collect (otherwise : CellType) (cells : List Cell) : Except Error Column :=
  if cells.isEmpty then .ok (Column.empty otherwise) else Column.ofCells cells

/-- Applies a function to every value of a column. -/
def Column.mapCells (otherwise : CellType) (f : Cell → Except Error Cell) (c : Column) :
    Except Error Column :=
  match c.cells.mapM f with
  | .error e => .error e
  | .ok cells => Column.collect otherwise cells

/-- Applies an operator to every value. -/
def UnaryOp.onDatum (op : UnaryOp) : Datum → Except Error Datum
  | .cell a => (op.apply a).map .cell
  | .column c => (c.mapCells c.type op.apply).map .column

/-- The type that the result of an operator has when there are no rows. -/
def BinaryOp.typeWithoutRows (op : BinaryOp) (operand : CellType) : CellType :=
  if op.isPredicate then .bool else operand

/-- Applies an operator row by row. -/
def BinaryOp.onDatum (op : BinaryOp) (a b : Datum) : Except Error Datum :=
  match a, b with
  | .cell x, .cell y => (op.apply x y).map .cell
  | .column c, .cell y =>
    (c.mapCells (op.typeWithoutRows c.type) fun x => op.apply x y).map .column
  | .cell x, .column d =>
    (d.mapCells (op.typeWithoutRows d.type) fun y => op.apply x y).map .column
  | .column c, .column d =>
    if c.length ≠ d.length then .error (.lengthsDiffer c.length d.length)
    else
      match (c.cells.zip d.cells).mapM fun (x, y) => op.apply x y with
      | .error e => .error e
      | .ok cells => (Column.collect (op.typeWithoutRows c.type) cells).map .column

end TableVerbs
