import TableVerbs.Expr.Argument
import TableVerbs.Table.Keys
import TableVerbs.Table.Sample

/-!
# Verbs

A verb describes one operation on a dataset, with all of its arguments; nothing
happens until it is run. Every verb belongs to a kind, and kinds have names by
which they can be looked up.
-/

namespace TableVerbs

/-- A column to compute, under its name. -/
abbrev NewColumn := String × Argument

/-- Which columns to select: every one that meets some criterion. An empty text
is no criterion. -/
structure Selection where
  /-- Columns of these names. -/
  names : List String
  /-- Columns whose name begins so. -/
  startsWith : Option String
  /-- Columns whose name ends so. -/
  endsWith : Option String
  /-- Columns whose name has this in it. -/
  contains : Option String
  /-- Columns whose name begins with a match of this pattern. -/
  pattern : Option String
  /-- Whether to take all other columns instead. -/
  drop : Bool
deriving DecidableEq

/-- Which rows count as repeated, and which of them stay. -/
structure Distinct where
  /-- The columns that tell rows apart, all of them if not given. -/
  columns : Option (List String)
  /-- Which of the rows with one key stay. -/
  keep : Keep
  /-- Columns to compute first. -/
  newColumns : List NewColumn
deriving DecidableEq

/-- What a caller computes on every partition. -/
inductive Computation where
  /-- A whole table. -/
  | table (f : Table → Except Error Table)
  /-- Columns, or cells to repeat in them, under their names. -/
  | columns (fs : List (String × (Table → Except Error Datum)))

/-- An operation on a dataset. -/
inductive Verb where
  /-- Picks columns. -/
  | select (selection : Selection)
  /-- Renames columns by pairs of old and new name. -/
  | rename (mapping : List (String × String))
  /-- Adds or replaces columns, all computed before any is set. -/
  | mutate (columns : List NewColumn)
  /-- The same, and keeps only these columns and the keys. -/
  | transmute (columns : List NewColumn)
  /-- Drops repeated rows. -/
  | distinct (spec : Distinct)
  /-- Sorts rows, the first key counting most. -/
  | arrange (keys : List Argument)
  /-- Groups rows by columns and by computed ones. -/
  | groupBy (keys : List String) (newColumns : List NewColumn)
  /-- Forgets the keys. -/
  | ungroup
  /-- Numbers the rows by their group. -/
  | groupIndices (keys : List String) (newColumns : List NewColumn)
  /-- Reduces every group, with the reducers in scope. -/
  | summarize (columns : List NewColumn)
  /-- Keeps the rows where a condition holds. -/
  | query (condition : String)
  /-- Replaces every group by what a caller computes. -/
  | compute (computation : Computation)
  /-- Keeps the first rows of every group. -/
  | head (n : Nat)
  /-- Keeps the last rows of every group. -/
  | tail (n : Nat)
  /-- Draws rows. -/
  | sample (spec : Sample)

/-- The kinds of verbs. -/
inductive VerbKind where
  | select
  | rename
  | mutate
  | transmute
  | distinct
  | arrange
  | groupBy
  | ungroup
  | groupIndices
  | summarize
  | query
  | compute
  | head
  | tail
  | sampleRows
  | sampleShare
deriving DecidableEq

namespace VerbKind

/-- All kinds. -/
def all : List VerbKind :=
  [.select, .rename, .mutate, .transmute, .distinct, .arrange, .groupBy, .ungroup,
    .groupIndices, .summarize, .query, .compute, .head, .tail, .sampleRows, .sampleShare]

/-- The name of a kind. -/
def name : VerbKind → String
  | .select => "select"
  | .rename => "rename"
  | .mutate => "mutate"
  | .transmute => "transmute"
  | .distinct => "distinct"
  | .arrange => "arrange"
  | .groupBy => "group_by"
  | .ungroup => "ungroup"
  | .groupIndices => "group_indices"
  | .summarize => "summarize"
  | .query => "query"
  | .compute => "do"
  | .head => "head"
  | .tail => "tail"
  | .sampleRows => "sample_n"
  | .sampleShare => "sample_frac"

/-- The kind of a name. -/
def ofName (name : String) : Except Error VerbKind :=
  match all.find? fun kind => kind.name = name with
  | some kind => .ok kind
  | none => .error (.unknownVerb name)

/-- Every kind is found under its name. -/
theorem ofName_name (kind : VerbKind) : ofName kind.name = .ok kind := by
  cases kind <;> rfl

end VerbKind

/-- The kind of a verb. -/
def Verb.kind : Verb → VerbKind
  | .select _ => .select
  | .rename _ => .rename
  | .mutate _ => .mutate
  | .transmute _ => .transmute
  | .distinct _ => .distinct
  | .arrange _ => .arrange
  | .groupBy .. => .groupBy
  | .ungroup => .ungroup
  | .groupIndices .. => .groupIndices
  | .summarize _ => .summarize
  | .query _ => .query
  | .compute _ => .compute
  | .head _ => .head
  | .tail _ => .tail
  | .sample s =>
    match s.size with
    | .rows _ => .sampleRows
    | .share _ => .sampleShare

end TableVerbs
