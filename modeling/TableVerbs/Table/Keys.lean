import TableVerbs.Table.Rows

/-!
# Rows by their keys

A key is the tuple of a row's cells in some columns. Three things are done with
keys: rows are sorted by them, rows are grouped by them, and rows whose key
occurs again are dropped.

Sorting and grouping use the order of cells. Groups are kept in ascending order
of their keys while rows are added one by one, so that a group lists its rows in
ascending order, and the key of a group is that of its first row. Dropping
duplicates goes by fingerprints instead, which need no order.
-/

namespace TableVerbs

/-- The key tuple of every row. -/
def keyRows (rows : Nat) (columns : List Column) : List (List Cell) :=
  let cells := columns.map Column.cells
  (List.range rows).map fun row => cells.filterMap fun cs => cs[row]?

/-- Groups in ascending order of their keys, each with the positions of its rows. -/
abbrev Groups := List (List Cell × List Nat)

/-- The groups with one more row. -/
def Groups.add (groups : Groups) (key : List Cell) (row : Nat) : Groups :=
  match groups with
  | [] => [(key, [row])]
  | (k, rows) :: rest =>
    match Cell.orderKeys key k with
    | .lt => (key, [row]) :: (k, rows) :: rest
    | .eq => (k, rows ++ [row]) :: rest
    | .gt => (k, rows) :: Groups.add rest key row

/-- Which of the rows with one key are kept. -/
inductive Keep where
  /-- The first of them. -/
  | first
  /-- The last of them. -/
  | last
  /-- None, unless there is only one. -/
  | none
deriving DecidableEq

namespace Keep

/-- Whether a row is kept that is the `nth` of its key, of `total` rows that have it. -/
def keeps (keep : Keep) (nth total : Nat) : Bool :=
  match keep with
  | .first => nth == 1
  | .last => nth == total
  | .none => total == 1

/-- Marks entries of a list, given the ones before them, the latest first. -/
def markFrom [DecidableEq α] (keep : Keep) (all seen : List α) : List α → List Bool
  | [] => []
  | k :: rest =>
    keep.keeps ((k :: seen).count k) (all.count k) :: markFrom keep all (k :: seen) rest

/-- Marks the entries to keep: every key is counted first, and then counted again
entry by entry. -/
def mark [DecidableEq α] (keep : Keep) (keys : List α) : List Bool := keep.markFrom keys [] keys

end Keep

namespace Table

/-- The columns of these names. -/
def columnsOf (t : Table) (names : List String) : Except Error (List Column) :=
  names.mapM t.column

/-- The positions of the rows in ascending order of some keys, the first key
counting most and rows with equal keys staying in order. -/
def sortPositions (keys : List Column) (t : Table) : Except Error (List Nat) :=
  match keys.find? fun c => c.length ≠ t.rows with
  | some bad => .error (.sortKeyLength bad.length t.rows)
  | none =>
    let keyed := (keyRows t.rows keys).zipIdx
    .ok ((keyed.mergeSort fun a b => (Cell.orderKeys a.1 b.1).isLE).map Prod.snd)

/-- The rows grouped by their keys in some columns. -/
def groupRows (names : List String) (t : Table) : Except Error Groups :=
  match t.columnsOf names with
  | .error e => .error e
  | .ok columns =>
    .ok ((keyRows t.rows columns).zipIdx.foldl (fun groups (key, row) => groups.add key row) [])

/-- Drops rows whose key occurs again; without names the key is the whole row. -/
def dropDuplicates (names : Option (List String)) (keep : Keep) (t : Table) :
    Except Error Table :=
  let columns :=
    match names with
    | some names => t.columnsOf names
    | none => .ok (t.columns.map Prod.snd)
  match columns with
  | .error e => .error e
  | .ok columns =>
    t.filter (keep.mark ((keyRows t.rows columns).map fun key => key.map Cell.fingerprint))

end Table

end TableVerbs
