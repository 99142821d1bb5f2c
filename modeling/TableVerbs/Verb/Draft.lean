import TableVerbs.Expr.Datum
import TableVerbs.Table.Columns

/-!
# Tables from values

A table is built from named values one at a time. The first value decides how
many rows there are, a cell making one row; from then on cells are repeated to
that number and columns have to have it. No values at all make one row without
columns.
-/

namespace TableVerbs

/-- A table under construction, `none` before its first value. -/
abbrev Draft := Option Table

namespace Draft

/-- Adds a value under a name. -/
def push (draft : Draft) (name : String) (value : Datum) : Except Error Draft :=
  let t := draft.getD (.ofRows (value.length?.getD 1))
  match value.toColumn t.rows with
  | .error e => .error e
  | .ok c => (t.setColumn name c).map some

/-- Computes values one after another and adds each under its name. -/
def pushAll (value : α → Except Error Datum) : List (String × α) → Draft → Except Error Draft
  | [], draft => .ok draft
  | (name, a) :: rest, draft =>
    match value a with
    | .error e => .error e
    | .ok v =>
      match draft.push name v with
      | .error e => .error e
      | .ok draft => pushAll value rest draft

/-- The finished table. -/
def finish (draft : Draft) : Table := draft.getD (.ofRows 1)

end Draft

/-- The table of values computed under their names. -/
def Table.ofValues (value : α → Except Error Datum) (items : List (String × α)) :
    Except Error Table :=
  (Draft.pushAll value items none).map Draft.finish

end TableVerbs
