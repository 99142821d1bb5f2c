import TableVerbs.Dataset
import TableVerbs.Expr.Argument

/-!
# Edits

Some verbs change columns, and such a change can be made on the input dataset
itself or on a copy. An edit says what happens either way: what the dataset
becomes, step by step, and the failure that stopped it, if one did. Made on a
copy, it never shows in the input; made in place, the input becomes whatever the
edit had done when it ended, also where it ended early.
-/

namespace TableVerbs

/-- What running a verb gives, and what it leaves the input dataset as. -/
structure Applied (α : Type) where
  /-- The result, or the failure. -/
  outcome : Except Error α
  /-- The input dataset afterwards. -/
  input : Dataset

namespace Applied

/-- A result that leaves the input as it was. -/
def untouched (input : Dataset) (outcome : Except Error α) : Applied α := ⟨outcome, input⟩

/-- Goes on with the result, which no longer touches the input. -/
def bind (a : Applied α) (f : α → Except Error β) : Applied β :=
  match a.outcome with
  | .ok x => ⟨f x, a.input⟩
  | .error e => ⟨.error e, a.input⟩

/-- Changes the result. -/
def map (f : α → β) (a : Applied α) : Applied β := ⟨a.outcome.map f, a.input⟩

end Applied

/-- A change of a dataset: what it has become, and whether the change was
completed. -/
abbrev Edit := Dataset → Dataset × Except Error Unit

namespace Edit

/-- An edit in one step, which on failure changes nothing. -/
def atOnce (f : Dataset → Except Error Dataset) : Edit := fun d =>
  match f d with
  | .ok edited => (edited, .ok ())
  | .error e => (d, .error e)

/-- Sets columns one after another, up to the first one that fails. -/
def setColumns : List (String × Column) → Edit
  | [], d => (d, .ok ())
  | (name, c) :: rest, d =>
    match d.table.setColumn name c with
    | .ok t => setColumns rest (d.withTable t)
    | .error e => (d, .error e)

/-- Runs an edit on the input, in place or on a copy. -/
def run (edit : Edit) (inPlace : Bool) (input : Dataset) : Applied Dataset :=
  let (edited, done) := edit input
  { outcome := done.map fun _ => edited
    input := if inPlace then edited else input }

end Edit

/-- The values of columns to compute, all on the same table. -/
def evalColumns (scope : Scope) (t : Table) (columns : List (String × Argument)) :
    Except Error (List (String × Column)) :=
  columns.mapM fun (name, a) => (a.evalColumn t scope).map fun c => (name, c)

end TableVerbs
