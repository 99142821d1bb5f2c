import TableVerbs.Column

/-!
# What an expression evaluates to

Either one cell or a whole column. A cell fits wherever a column does, repeated
as often as needed; a column fits only where its length is the right one.
-/

namespace TableVerbs

/-- The value of an expression. -/
inductive Datum where
  | cell (value : Cell)
  | column (values : Column)
deriving DecidableEq

namespace Datum

/-- The number of values, `none` for a cell, which fits any number. -/
def length? : Datum → Option Nat
  | .cell _ => none
  | .column c => some c.length

/-- The datum as a column of `rows` values. -/
def toColumn (rows : Nat) : Datum → Except Error Column
  | .cell v => .ok (Column.replicate rows v)
  | .column c => if c.length = rows then .ok c else .error (.valueLength c.length rows)

/-- The column, or a cell as a column of one row. -/
def asColumn : Datum → Column
  | .cell v => Column.replicate 1 v
  | .column c => c

end Datum

end TableVerbs
