import TableVerbs.Verb
import TableVerbs.Verb.Edit

/-!
# Verbs on groups

A dataset is grouped by columns that it has and by columns computed for the
purpose, which are set on it. To number the rows of a plain dataset by their
group, only the key columns are put together; a grouped dataset is numbered by
the keys that it has, whatever other keys are asked for.
-/

namespace TableVerbs

/-- The given keys, then the computed ones, none of them twice. -/
def allKeys (keys : List String) (newColumns : List NewColumn) : List String :=
  withoutRepeats (keys ++ newColumns.map Prod.fst)

namespace Dataset

/-- Groups anew by columns that are there and by computed ones. -/
def regroup (inPlace : Bool) (scope : Scope) (keys : List String)
    (newColumns : List NewColumn) (d : Dataset) : Applied Dataset :=
  match evalColumns scope d.table newColumns with
  | .error e => .untouched d (.error e)
  | .ok values =>
    let edit := Edit.atOnce fun d =>
      match d.table.setColumns values with
      | .error e => .error e
      | .ok t => (Grouped.ofKeys t (allKeys keys newColumns)).map .grouped
    edit.run inPlace d

/-- The table without keys. -/
def ungroup (d : Dataset) : Dataset := .plain d.table

/-- The table of the key columns of a plain dataset. -/
def keyTable (scope : Scope) (keys : List String) (newColumns : List NewColumn)
    (t : Table) : Except Error Table :=
  match t.select keys with
  | .error e => .error e
  | .ok projected =>
    match evalColumns scope t newColumns with
    | .error e => .error e
    | .ok values => projected.setColumns values

/-- The group label of every row. -/
def groupIndices (scope : Scope) (keys : List String) (newColumns : List NewColumn)
    (d : Dataset) : Except Error (List Nat) :=
  match d with
  | .grouped g => g.labels
  | .plain t =>
    let all := allKeys keys newColumns
    if all.isEmpty then .error .noLabelKey
    else
      match keyTable scope keys newColumns t with
      | .error e => .error e
      | .ok projected =>
        match Grouped.ofKeys projected all with
        | .error e => .error e
        | .ok g => g.labels

end Dataset

end TableVerbs
