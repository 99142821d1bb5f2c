import TableVerbs.Expr.Eval

/-!
# Arguments of verbs

Where a verb takes an expression, it takes a text, which is evaluated on the
table, or a value that is there already: a cell, a column, or, by the caller's
mistake, a whole table, which stands for no column and is refused.
-/

namespace TableVerbs

/-- What a verb accepts as an expression. -/
inductive Argument where
  | text (source : String)
  | column (values : Column)
  | cell (value : Cell)
  | table (value : Table)
deriving DecidableEq

namespace Argument

/-- The value of an argument on a table. A column has to have the table's
length. -/
def eval (a : Argument) (table : Table) (scope : Scope) : Except Error Datum :=
  match a with
  | .text source => scope.eval source table
  | .column c =>
    if c.length = table.rows then .ok (.column c)
    else .error (.valueLength c.length table.rows)
  | .cell v => .ok (.cell v)
  | .table _ => .error .tableAsExpression

/-- The value of an argument where it is not tied to the rows of the table: a
column may have any length. -/
def evalFree (a : Argument) (table : Table) (scope : Scope) : Except Error Datum :=
  match a with
  | .column c => .ok (.column c)
  | a => a.eval table scope

/-- The value of an argument as a column of the table. -/
def evalColumn (a : Argument) (table : Table) (scope : Scope) : Except Error Column :=
  match a.eval table scope with
  | .error e => .error e
  | .ok d => d.toColumn table.rows

end Argument

end TableVerbs
