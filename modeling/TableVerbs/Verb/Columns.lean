import TableVerbs.Pattern.Reader
import TableVerbs.Verb
import TableVerbs.Verb.Edit

/-!
# Verbs on columns

Selecting, renaming and computing columns. New columns are all computed on the
table as it was before any of them is set, so their order does not matter to
their values. A selection always includes the keys of a grouped dataset; when it
is turned around it leaves them out for the same reason.
-/

namespace TableVerbs

namespace Selection

/-- A criterion that was given and is not empty. -/
def criterion : Option String → Option String
  | some text => if text.isEmpty then none else some text
  | none => none

/-- The pattern of a selection, if it has one. -/
def pattern? (s : Selection) : Except Error (Option Pattern) :=
  match criterion s.pattern with
  | none => .ok none
  | some text =>
    match Pattern.read? text with
    | some p => .ok (some p)
    | none => .error .badPattern

/-- Whether a text occurs in another. -/
def occurs (part : List Char) : List Char → Bool
  | [] => part.isEmpty
  | c :: rest => part.isPrefixOf (c :: rest) || occurs part rest

/-- Whether a name meets some criterion of a selection or is a key. -/
def covers (s : Selection) (pattern : Option Pattern) (keys : List String) (name : String) :
    Bool :=
  s.names.contains name ||
    (criterion s.startsWith).any (fun part => part.toList.isPrefixOf name.toList) ||
    (criterion s.endsWith).any (fun part => part.toList.isSuffixOf name.toList) ||
    (criterion s.contains).any (fun part => occurs part.toList name.toList) ||
    pattern.any (fun p => p.startsOn name) ||
    keys.contains name

/-- Selects columns. -/
def run (s : Selection) (d : Dataset) : Except Error Dataset :=
  match s.pattern? with
  | .error e => .error e
  | .ok pattern =>
    let mask := d.table.names.map fun name => s.covers pattern d.keys name != s.drop
    (d.table.selectMask mask).map d.retag

end Selection

namespace Dataset

/-- Renames columns, keys among them. -/
def rename (mapping : List (String × String)) (d : Dataset) : Except Error Dataset :=
  match d.table.rename mapping with
  | .error e => .error e
  | .ok t =>
    match d with
    | .plain _ => .ok (.plain t)
    | .grouped g => (Grouped.ofKeys t (g.keys.map (Table.newName mapping))).map .grouped

/-- Computes columns and sets them. -/
def mutate (inPlace : Bool) (scope : Scope) (columns : List NewColumn) (d : Dataset) :
    Applied Dataset :=
  match evalColumns scope d.table columns with
  | .error e => .untouched d (.error e)
  | .ok values => (Edit.setColumns values).run inPlace d

/-- The dataset without any columns but its keys. -/
def keysOnly (d : Dataset) : Except Error Dataset :=
  match d with
  | .plain t => .ok (.plain t.withoutColumns)
  | .grouped g =>
    match g.table.select g.keys with
    | .error e => .error e
    | .ok t => (Grouped.ofKeys t g.keys).map .grouped

/-- Computes columns and sets them beside the keys. -/
def transmute (scope : Scope) (columns : List NewColumn) (d : Dataset) :
    Except Error Dataset :=
  match evalColumns scope d.table columns with
  | .error e => .error e
  | .ok values =>
    match d.keysOnly with
    | .error e => .error e
    | .ok kept => ((Edit.setColumns values).run false kept).outcome

end Dataset

end TableVerbs
