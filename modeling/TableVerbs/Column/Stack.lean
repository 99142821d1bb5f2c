import TableVerbs.Column

/-!
# Stacking columns

Columns put end to end take one type. Integers and floats meet as floats; any
other two types do not meet. A part without values has no say, and a part of
missing values has none either: with texts it becomes the text of a NaN, with
integers and truth values it makes the whole column one of floats.
-/

namespace TableVerbs

/-- The size of some parts together. -/
def totalSize (size : α → Nat) : List α → Nat
  | [] => 0
  | part :: rest => size part + totalSize size rest

namespace Column

/-- The type in which two types meet. -/
def joinTypes (a b : CellType) : Except Error CellType :=
  if a = b then .ok a
  else match a, b with
    | .int, .float => .ok .float
    | .float, .int => .ok .float
    | _, _ => .error (.unlikeColumns a b)

/-- The parts of a stack that have values. -/
def nonEmpty (parts : List Column) : List Column := parts.filter fun c => c.length != 0

/-- The parts of a stack that decide its type: those with a value that is not
missing. -/
def deciding (parts : List Column) : List Column :=
  (nonEmpty parts).filter fun c => !c.isMissing

/-- The type of a stack. When no part decides, it is that of the first part with
values, or of the first part. -/
def stackType (first : Column) (parts : List Column) : Except Error CellType :=
  match (deciding parts).foldlM (fun t c => joinTypes t c.type) first.type with
  | .error e => .error e
  | .ok t => .ok (if (nonEmpty parts).any isMissing && t != .str then .float else t)

/-- The integers of a part. -/
def ints? : Column → List Int64
  | .ints xs => xs
  | .floats _ | .bools _ | .strs _ => []

/-- The truth values of a part. -/
def bools? : Column → List Bool
  | .bools xs => xs
  | .ints _ | .floats _ | .strs _ => []

/-- The texts of a part, those of floats included. -/
def texts? : Column → List String
  | .strs xs => xs
  | .floats xs => xs.map Decimal.Layout.cell.write
  | .ints _ | .bools _ => []

/-- The values of the parts as one column of a type. -/
def gatherAs (t : CellType) (parts : List Column) : Except Error Column :=
  match t with
  | .int => .ok (.ints (parts.flatMap ints?))
  | .bool => .ok (.bools (parts.flatMap bools?))
  | .str => .ok (.strs (parts.flatMap texts?))
  | .float =>
    match parts.mapM toFloats with
    | .error e => .error e
    | .ok xss => .ok (.floats xss.flatten)

/-- Columns end to end. -/
def stack (parts : List Column) : Except Error Column :=
  match (deciding parts ++ nonEmpty parts ++ parts).head? with
  | none => .ok (.floats [])
  | some first =>
    match stackType first parts with
    | .error e => .error e
    | .ok t => gatherAs t (nonEmpty parts)

end Column

end TableVerbs
