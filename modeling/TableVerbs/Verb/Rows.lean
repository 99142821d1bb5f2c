import TableVerbs.Verb.Columns

/-!
# Verbs on rows

Sorting, filtering, drawing and telling apart rows. All of them pick rows of the
input with their labels, and the result is grouped as the input was.
-/

namespace TableVerbs

/-- Drops repeated rows, after computing columns. -/
def Distinct.run (s : Distinct) (inPlace : Bool) (scope : Scope) (d : Dataset) :
    Applied Dataset :=
  let source :=
    if s.newColumns.isEmpty then Applied.untouched d (.ok d)
    else d.mutate inPlace scope s.newColumns
  source.bind fun d => (d.table.dropDuplicates s.columns s.keep).map d.retag

/-- The positions of the rows in ascending order of computed keys. -/
def Table.order (scope : Scope) (keys : List Argument) (t : Table) : Except Error (List Nat) :=
  match keys.mapM fun key => key.evalColumn t scope with
  | .error e => .error e
  | .ok columns => t.sortPositions columns

namespace Dataset

/-- Sorts the rows by computed keys; without keys nothing changes. -/
def arrange (scope : Scope) (keys : List Argument) (d : Dataset) : Except Error Dataset :=
  if keys.isEmpty then .ok d
  else (d.table.order scope keys).map fun positions => d.retag (d.table.gather positions)

/-- The rows that a condition marks; a truth value marks all of them or none. -/
def conditionMask (rows : Nat) : Datum → Except Error (List Bool)
  | .column (.bools mask) => .ok mask
  | .column c => .error (.conditionColumn c.type)
  | .cell (.bool keep) => .ok (List.replicate rows keep)
  | .cell v => .error (.conditionCell v.type)

/-- Keeps the rows where a condition holds. -/
def query (scope : Scope) (condition : String) (d : Dataset) : Except Error Dataset :=
  match scope.eval condition d.table with
  | .error e => .error e
  | .ok value =>
    match conditionMask d.table.rows value with
    | .error e => .error e
    | .ok mask => (d.table.filter mask).map d.retag

/-- Draws rows. -/
def sample (draws : Draws) (s : Sample) (d : Dataset) : Except Error Dataset :=
  (d.table.sample s draws).map d.retag

end Dataset

end TableVerbs
