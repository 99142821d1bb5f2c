import TableVerbs.Table.Columns
import TableVerbs.Table.Keys
import TableVerbs.Table.Stack

/-!
# Grouped tables and datasets

A grouped table is a table with a list of key columns. The keys split its rows
into partitions, one for each key tuple that occurs, in ascending order of the
tuples; the ordinal of its partition is a row's group label. Verbs work on
datasets, which are either plain tables or grouped ones, and pass the keys on.
-/

namespace TableVerbs

/-- A table with key columns. -/
structure Grouped where
  /-- The table. -/
  table : Table
  /-- The names of the key columns. -/
  keys : List String
deriving DecidableEq

/-- The rows of one key tuple. -/
structure Partition where
  /-- The key tuple. -/
  key : List Cell
  /-- The rows. -/
  table : Table
deriving DecidableEq

/-- The key columns that hold a partition's key on `rows` rows. -/
def Partition.keyColumns (p : Partition) (keys : List String) (rows : Nat) :
    List (String × Column) :=
  (keys.zip p.key).map fun (name, cell) => (name, Column.replicate rows cell)

/-- Names without repeats, in the order of first occurrence. -/
def withoutRepeats (names : List String) : List String := names.eraseDups

/-- Whose failure counts where partitions are worked on side by side and several of
them fail: of `n + 1` failures, in the order of the keys, the one at the place that
the schedule gives. -/
abbrev Schedule := (n : Nat) → Fin (n + 1)

namespace Schedule

variable {α : Type}

/-- One partition after the other, where the first failure is the end of the work. -/
def inTurn : Schedule := fun _ => 0

/-- The failures among outcomes. -/
def failures (outcomes : List (Except Error α)) : List Error :=
  outcomes.filterMap fun
    | .error e => some e
    | .ok _ => none

/-- Puts outcomes together, in the order in which they stand: all results, or the
failure that counts. -/
def collect (schedule : Schedule) (outcomes : List (Except Error α)) : Except Error (List α) :=
  match failures outcomes with
  | [] => .ok (outcomes.filterMap Except.toOption)
  | e :: es => .error ((e :: es).get (schedule es.length))

end Schedule

namespace Grouped

/-- Groups a table by columns. Repeated keys count once, and there has to be a
key. -/
def ofKeys (t : Table) (keys : List String) : Except Error Grouped :=
  match keys.find? fun k => !t.has k with
  | some k => .error (.groupKeyMissing k)
  | none => if keys.isEmpty then .error .noGroupKey else .ok ⟨t, withoutRepeats keys⟩

/-- What callers may rely on: a well-formed table, and at least one key, no key
twice and each a column. -/
structure WellFormed (g : Grouped) : Prop where
  /-- The table is well formed. -/
  table : g.table.WellFormed
  /-- There is a key. -/
  keys_ne_nil : g.keys ≠ []
  /-- No key occurs twice. -/
  keys_nodup : g.keys.Nodup
  /-- Every key is a column. -/
  keys_mem : ∀ k ∈ g.keys, k ∈ g.table.names

/-- The partitions, in ascending order of their keys. -/
def partitions (g : Grouped) : Except Error (List Partition) :=
  (g.table.groupRows g.keys).map fun groups =>
    groups.map fun (key, rows) => ⟨key, g.table.gather rows⟩

/-- The label of every row: how many groups come before its own. -/
def labels (g : Grouped) : Except Error (List Nat) :=
  (g.table.groupRows g.keys).map fun groups =>
    (List.range g.table.rows).map fun row =>
      groups.findIdx fun group => group.2.contains row

/-- Applies a function to every partition and stacks the results, in ascending
order of the keys. Where it fails, the schedule says on which partition, and that is
the first unless it says otherwise. Without rows there are no partitions, and what
remains are the key columns. -/
def mapPartitions (g : Grouped) (f : Partition → Except Error Table)
    (schedule : Schedule := .inTurn) : Except Error Table :=
  match g.partitions with
  | .error e => .error e
  | .ok [] => (g.table.select g.keys).map Table.relabelled
  | .ok partitions =>
    match schedule.collect (partitions.map f) with
    | .error e => .error e
    | .ok tables => Table.stack tables

end Grouped

/-- A plain table or a grouped one. -/
inductive Dataset where
  | plain (table : Table)
  | grouped (grouped : Grouped)
deriving DecidableEq

namespace Dataset

/-- The table of a dataset. -/
def table : Dataset → Table
  | .plain t => t
  | .grouped g => g.table

/-- The keys of a dataset; a plain one has none. -/
def keys : Dataset → List String
  | .plain _ => []
  | .grouped g => g.keys

/-- Whether the dataset is grouped. -/
def isGrouped : Dataset → Bool
  | .plain _ => false
  | .grouped _ => true

/-- What callers may rely on. -/
def WellFormed : Dataset → Prop
  | .plain t => t.WellFormed
  | .grouped g => g.WellFormed

/-- The dataset with another table in place of its own. -/
def withTable (t : Table) : Dataset → Dataset
  | .plain _ => .plain t
  | .grouped g => .grouped { g with table := t }

/-- Groups the table of a dataset anew. -/
def groupBy (d : Dataset) (keys : List String) : Except Error Dataset :=
  (Grouped.ofKeys d.table keys).map .grouped

/-- A table under the keys of this dataset that it still has as columns; plain
if it has none of them. -/
def retag (d : Dataset) (t : Table) : Dataset :=
  match d.keys.filter t.has with
  | [] => .plain t
  | keys => .grouped ⟨t, withoutRepeats keys⟩

end Dataset

end TableVerbs
