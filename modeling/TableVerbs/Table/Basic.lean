import TableVerbs.Column

/-!
# Tables

A table is a list of named columns and a list of row labels. The labels come
first in importance: they say how many rows there are, also where there is no
column to count, and they stay with their rows when rows are picked.

A table that is put together from columns has columns of one length with
different names; `WellFormed` says so. Picking columns by name may name one
twice, so it is a property of tables and not part of the type. Where a name
occurs twice, it means the first column of that name.
-/

namespace TableVerbs

/-- Named columns over labelled rows. -/
structure Table where
  /-- The columns in order, with their names. -/
  columns : List (String × Column)
  /-- The labels of the rows. -/
  labels : List Nat
deriving DecidableEq

namespace Table

/-- The number of rows. -/
def rows (t : Table) : Nat := t.labels.length

/-- The names of the columns, in order. -/
def names (t : Table) : List String := t.columns.map Prod.fst

/-- What callers may rely on: as many values in each column as there are rows,
and no name twice. -/
structure WellFormed (t : Table) : Prop where
  /-- Every column has one value for each row. -/
  lengths : ∀ c ∈ t.columns, c.2.length = t.rows
  /-- No name occurs twice. -/
  names_nodup : t.names.Nodup

/-- The column of a name, if there is one. -/
def find? (t : Table) (name : String) : Option Column := t.columns.lookup name

/-- Whether there is a column of a name. -/
def has (t : Table) (name : String) : Bool := t.names.contains name

/-- The column of a name. -/
def column (t : Table) (name : String) : Except Error Column :=
  match t.find? name with
  | some c => .ok c
  | none => .error (.missingColumn name)

/-! ## Building a table -/

/-- The first fault among columns that are to make a table: one of another
length than the first, or a name that came before. -/
def fault? (length : Nat) : List String → List (String × Column) → Option Error
  | _, [] => none
  | seen, (name, c) :: rest =>
    if c.length ≠ length then some (.columnLength name c.length length)
    else if name ∈ seen then some (.duplicateColumn name)
    else fault? length (name :: seen) rest

/-- A table of columns, its rows labelled from 0. -/
def ofColumns (columns : List (String × Column)) : Except Error Table :=
  let length := (columns.head?.map fun c => c.2.length).getD 0
  match fault? length [] columns with
  | some e => .error e
  | none => .ok ⟨columns, List.range length⟩

/-- No columns and no rows. -/
def empty : Table := ⟨[], []⟩

/-- No columns, and rows labelled from 0. -/
def ofRows (n : Nat) : Table := ⟨[], List.range n⟩

/-- The rows without the columns. -/
def withoutColumns (t : Table) : Table := ⟨[], t.labels⟩

/-- The same rows labelled from 0. -/
def relabelled (t : Table) : Table := ⟨t.columns, List.range t.rows⟩

/-- Whether two tables have the same names, labels and values, floats compared
as numbers. -/
def agrees (a b : Table) : Bool :=
  a.names == b.names && a.labels == b.labels &&
    (a.columns.zip b.columns).all fun (c, d) => c.2.agrees d.2

end Table

end TableVerbs
