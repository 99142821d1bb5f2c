import TableVerbs.Table.Basic

/-!
# Changing columns

Columns are picked by name or by a mask, added, replaced in their place,
inserted and renamed; the rows stay as they are throughout. Renaming is
simultaneous: every old name is looked up in the list of pairs as it was given,
where the last pair for a name counts, so that two columns can trade names.
-/

namespace TableVerbs.Table

/-- The columns that a mask marks. -/
def selectMask (mask : List Bool) (t : Table) : Except Error Table :=
  if mask.length ≠ t.columns.length then
    .error (.columnMaskLength mask.length t.columns.length)
  else
    .ok ⟨(t.columns.zip mask).filterMap fun (c, keep) => if keep then some c else none,
      t.labels⟩

/-- The columns of these names, in this order. -/
def select (names : List String) (t : Table) : Except Error Table :=
  match names.mapM fun n => (t.column n).map fun c => (n, c) with
  | .error e => .error e
  | .ok columns => .ok ⟨columns, t.labels⟩

/-- Columns with the first one of a name replaced, or with a new one at the end. -/
def putColumn (name : String) (c : Column) : List (String × Column) → List (String × Column)
  | [] => [(name, c)]
  | (n, d) :: rest => if n = name then (n, c) :: rest else (n, d) :: putColumn name c rest

/-- Adds a column, or replaces the one of its name where it stands. -/
def setColumn (name : String) (c : Column) (t : Table) : Except Error Table :=
  if c.length ≠ t.rows then .error (.newColumnLength name c.length t.rows)
  else .ok ⟨putColumn name c t.columns, t.labels⟩

/-- Adds or replaces columns one after another. -/
def setColumns : List (String × Column) → Table → Except Error Table
  | [], t => .ok t
  | (name, c) :: rest, t =>
    match t.setColumn name c with
    | .error e => .error e
    | .ok t => setColumns rest t

/-- Inserts a column of a new name at a position, or at the end if there are
fewer columns. -/
def insertColumn (position : Nat) (name : String) (c : Column) (t : Table) :
    Except Error Table :=
  if t.has name then .error (.columnExists name)
  else if c.length ≠ t.rows then .error (.insertedLength name c.length t.rows)
  else .ok ⟨t.columns.take position ++ (name, c) :: t.columns.drop position, t.labels⟩

/-- The new name of an old one under a list of pairs. -/
def newName (mapping : List (String × String)) (name : String) : String :=
  (mapping.reverse.lookup name).getD name

/-- The first name of a list that came before. -/
def firstRepeat? : List String → List String → Option String
  | _, [] => none
  | seen, n :: rest => if n ∈ seen then some n else firstRepeat? (n :: seen) rest

/-- Renames columns by pairs of old and new name. -/
def rename (mapping : List (String × String)) (t : Table) : Except Error Table :=
  match mapping.find? fun pair => !t.has pair.1 with
  | some pair => .error (.renameMissing pair.1)
  | none =>
    let columns := t.columns.map fun c => (newName mapping c.1, c.2)
    match firstRepeat? [] (columns.map Prod.fst) with
    | some n => .error (.renameCollision n)
    | none => .ok ⟨columns, t.labels⟩

end TableVerbs.Table
