import TableVerbs.Expr.Reducer
import TableVerbs.Verb
import TableVerbs.Verb.Draft
import TableVerbs.Verb.Edit

/-!
# Verbs on each group

Reducing, replacing and cutting off the groups of a dataset, each on its own; a
plain dataset is one group. Where the result of a group lacks its keys they are
put in front. A summary must not have a column of a key's name, while a
computation that returns a key column keeps it. If it is not possible for several
groups, a schedule says which of them the failure is about.
-/

namespace TableVerbs

/-- Puts key columns in front, the i-th one at place i. Those that are there
already are left alone or, if `keep` is false, refused. -/
def Table.insertKeys (keep : Bool) : Nat → List (String × Column) → Table → Except Error Table
  | _, [], t => .ok t
  | place, (name, c) :: rest, t =>
    if keep && t.has name then insertKeys keep (place + 1) rest t
    else
      match t.insertColumn place name c with
      | .error e => .error e
      | .ok t => insertKeys keep (place + 1) rest t

/-- A table for the rows of a partition, with the partition's keys in front. -/
def Partition.withKeys (keep : Bool) (keys : List String) (p : Partition) (t : Table) :
    Except Error Table :=
  t.insertKeys keep 0 (p.keyColumns keys t.rows)

/-- Computes a table from the rows of a group. -/
def Computation.run (c : Computation) (t : Table) : Except Error Table :=
  match c with
  | .table f => f t
  | .columns fs => Table.ofValues (fun f => f t) fs

namespace Dataset

/-- The summary of one group. -/
def summary (scope : Scope) (columns : List NewColumn) (t : Table) : Except Error Table :=
  Table.ofValues (fun a => a.evalFree t (scope.layer Reducer.all)) columns

/-- Reduces every group to a summary under its keys. -/
def summarize (schedule : Schedule) (scope : Scope) (columns : List NewColumn) (d : Dataset) :
    Except Error Dataset :=
  match d with
  | .plain t => (summary scope columns t).map .plain
  | .grouped g =>
    let reduce (p : Partition) : Except Error Table :=
      match summary scope columns p.table with
      | .error e => .error e
      | .ok t => p.withKeys false g.keys t
    (g.mapPartitions reduce schedule).map .plain

/-- Replaces every group by what is computed from it. -/
def compute (schedule : Schedule) (c : Computation) (d : Dataset) : Except Error Dataset :=
  match d with
  | .plain t => (c.run t).map .plain
  | .grouped g =>
    let replace (p : Partition) : Except Error Table :=
      match c.run p.table with
      | .error e => .error e
      | .ok t => p.withKeys true g.keys t
    match g.mapPartitions replace schedule with
    | .error e => .error e
    | .ok t => (Grouped.ofKeys t g.keys).map .grouped

/-- Applies a function to every group. Without rows there is nothing to apply it
to, and the dataset stays. -/
def perGroup (schedule : Schedule) (f : Table → Table) (d : Dataset) : Except Error Dataset :=
  match d with
  | .plain t => .ok (.plain (f t))
  | .grouped g =>
    if g.table.rows = 0 then .ok d
    else
      match g.mapPartitions (fun p => .ok (f p.table)) schedule with
      | .error e => .error e
      | .ok t => (Grouped.ofKeys t g.keys).map .grouped

/-- The first rows of every group. -/
def head (schedule : Schedule) (n : Nat) (d : Dataset) : Except Error Dataset :=
  d.perGroup schedule (Table.head n)

/-- The last rows of every group. -/
def tail (schedule : Schedule) (n : Nat) (d : Dataset) : Except Error Dataset :=
  d.perGroup schedule (Table.tail n)

end Dataset

end TableVerbs
