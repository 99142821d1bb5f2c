import TableVerbs.Column
import TableVerbs.Decimal.Reading
import TableVerbs.Text.Blank

/-!
# Typing a column of fields

The fields of a column are texts, and the column gets the narrowest type that
reads all of them: integers, else floats, else truth values in any case, else
the texts themselves. Blanks around a field do not count for the first three and
are kept in the last. A column without fields reads as integers.
-/

namespace TableVerbs.Csv

/-- Reads a truth value, in any case. -/
def readBool? (cs : List Char) : Option Bool :=
  match String.ofList (cs.map Char.toLower) with
  | "true" => some true
  | "false" => some false
  | _ => none

/-- The column of some fields. -/
def typed (fields : List String) : Column :=
  let trimmed := fields.map fun s => Text.trimmed s.toList
  match trimmed.mapM Decimal.readInt?, trimmed.mapM Decimal.readFloat?,
      trimmed.mapM readBool? with
  | some ints, _, _ => .ints ints
  | none, some floats, _ => .floats floats
  | none, none, some bools => .bools bools
  | none, none, none => .strs fields

end TableVerbs.Csv
