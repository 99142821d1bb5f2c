import TableVerbs.Cell
import TableVerbs.Expr.Operator

/-!
# Expression trees

What an expression says once its spelling is gone. Grouping by parentheses shows
only in the shape of the tree, and a unary plus, which changes nothing, does not
show at all.
-/

namespace TableVerbs

/-- An expression. -/
inductive Expr where
  /-- A constant. -/
  | lit (value : Cell)
  /-- A column, by its name. -/
  | column (name : String)
  /-- A function applied to arguments. -/
  | call (function : String) (args : List Expr)
  /-- An operator on one operand. -/
  | unary (op : UnaryOp) (operand : Expr)
  /-- An operator on two operands. -/
  | binary (op : BinaryOp) (left right : Expr)

end TableVerbs
