import TableVerbs.Column.Stack
import TableVerbs.Table.Basic

/-!
# Stacking tables

Tables with the same names, in whatever order, go on top of each other: column
by column by name, in the order of the first table, with new labels from 0.
-/

namespace TableVerbs.Table

/-- Whether two tables have the same names, regardless of order. -/
def sameNames (a b : Table) : Bool := a.names.all b.has && b.names.all a.has

/-- Stacks the columns of one name. -/
def stackColumn (tables : List Table) (name : String) : Except Error (String × Column) :=
  (Column.stack (tables.filterMap fun t => t.find? name)).map fun c => (name, c)

/-- Tables on top of each other. -/
def stack (tables : List Table) : Except Error Table :=
  match tables with
  | [] => .ok empty
  | first :: rest =>
    match rest.find? fun t => !first.sameNames t with
    | some t => .error (.unlikeTables first.names t.names)
    | none =>
      match first.names.mapM (stackColumn tables) with
      | .error e => .error e
      | .ok columns => .ok ⟨columns, List.range (totalSize rows tables)⟩

end TableVerbs.Table
