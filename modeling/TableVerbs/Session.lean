import TableVerbs.Verb.Groups
import TableVerbs.Verb.PerGroup
import TableVerbs.Verb.Rows

/-!
# Running verbs

A session says under what conditions verbs run: with which options, which
functions in scope, and what chance decides, which is the rows that are drawn and
whose failure counts among groups that fail side by side. A verb run on a dataset
has an outcome and leaves the dataset as it was, unless the session works in place
and the verb is one that changes columns.

Verbs can be run in a row, each on the dataset that the one before gave. Only
the first of them gets to see the caller's dataset.
-/

namespace TableVerbs

/-- Options of a session. -/
structure Options where
  /-- Whether verbs that change columns change the input dataset itself. -/
  inPlace : Bool
  /-- Whether groups are worked on side by side. Results are put together in the
  order of the keys either way. Of several failures the first in that order counts
  if groups are worked on in turn, and otherwise any of them may. -/
  parallel : Bool
deriving DecidableEq

/-- The options unless others are set. -/
def Options.standard : Options := ⟨false, false⟩

/-- What is left to chance. -/
structure Chance where
  /-- The source of draws. -/
  draws : Draws
  /-- The schedule of groups that are worked on side by side. -/
  schedule : Schedule

/-- Draws by themselves, where the first failure counts. -/
instance : Coe Draws Chance where
  coe draws := ⟨draws, .inTurn⟩

/-- What verbs run under. -/
structure Session where
  /-- The session's options; without them it follows the common defaults. -/
  options : Option Options
  /-- The functions in scope. -/
  scope : Scope
  /-- What chance decides. -/
  chance : Chance

/-- What a verb gives. -/
inductive Output where
  | data (dataset : Dataset)
  /-- A group label for each row. -/
  | labels (labels : List Nat)
deriving DecidableEq

namespace Output

/-- The dataset that was given. -/
def toDataset : Output → Except Error Dataset
  | .data d => .ok d
  | .labels _ => .error .labelsNotTable

/-- The labels that were given. -/
def toLabels : Output → Except Error (List Nat)
  | .labels ls => .ok ls
  | .data _ => .error .tableNotLabels

end Output

namespace Session

/-- The options that the next verb runs under. -/
def optionsUnder (defaults : Options) (s : Session) : Options := s.options.getD defaults

/-- The source of draws. -/
def draws (s : Session) : Draws := s.chance.draws

/-- The schedule that the next verb's groups are worked on by. -/
def scheduleUnder (defaults : Options) (s : Session) : Schedule :=
  if (s.optionsUnder defaults).parallel then s.chance.schedule else .inTurn

/-- Runs a verb on a dataset. -/
def apply (s : Session) (defaults : Options) (d : Dataset) (verb : Verb) : Applied Output :=
  let inPlace := (s.optionsUnder defaults).inPlace
  let schedule := s.scheduleUnder defaults
  match verb with
  | .select selection => .untouched d ((selection.run d).map .data)
  | .rename mapping => ((Edit.atOnce (Dataset.rename mapping)).run inPlace d).map .data
  | .mutate columns => (d.mutate inPlace s.scope columns).map .data
  | .transmute columns => .untouched d ((d.transmute s.scope columns).map .data)
  | .distinct spec => (spec.run inPlace s.scope d).map .data
  | .arrange keys => .untouched d ((d.arrange s.scope keys).map .data)
  | .groupBy keys newColumns => (d.regroup inPlace s.scope keys newColumns).map .data
  | .ungroup => .untouched d (.ok (.data d.ungroup))
  | .groupIndices keys newColumns =>
    .untouched d ((d.groupIndices s.scope keys newColumns).map .labels)
  | .summarize columns => .untouched d ((d.summarize schedule s.scope columns).map .data)
  | .query condition => .untouched d ((d.query s.scope condition).map .data)
  | .compute computation => .untouched d ((d.compute schedule computation).map .data)
  | .head n => .untouched d ((d.head schedule n).map .data)
  | .tail n => .untouched d ((d.tail schedule n).map .data)
  | .sample spec => .untouched d ((d.sample s.draws spec).map .data)

/-- Runs the verbs that follow on what was given so far. Labels have to come last. -/
def followUp (s : Session) (defaults : Options) (given : Output) : List Verb → Except Error Output
  | [] => .ok given
  | verb :: rest =>
    match given.toDataset with
    | .error e => .error e
    | .ok d =>
      match (s.apply defaults d verb).outcome with
      | .error e => .error e
      | .ok next => s.followUp defaults next rest

/-- Runs verbs in a row. -/
def pipe (s : Session) (defaults : Options) (d : Dataset) : List Verb → Applied Output
  | [] => .untouched d (.ok (.data d))
  | first :: rest =>
    (s.apply defaults d first).bind fun given => s.followUp defaults given rest

end Session

end TableVerbs
