import TableVerbs.Decimal.Layout
import TableVerbs.Number.Order
import TableVerbs.Number.Exact

/-!
# Cells

A cell holds one value of one of four types. Cells serve as group keys and as
sort keys, so they carry one order over all types: the type first, then the
value, with floats in the order that puts NaN last.

Beside the order stands the fingerprint, the data by which equal cells are
recognised without comparing them. Two cells have one fingerprint exactly when
the order holds them equal, which is why removing duplicates by fingerprint and
grouping by order find the same classes.
-/

namespace TableVerbs

/-- The four types of values. -/
inductive CellType where
  | int
  | float
  | bool
  | str
deriving DecidableEq

/-- The name of a type when a message speaks of a single value. -/
def CellType.name : CellType → String
  | .int => "int"
  | .float => "float"
  | .bool => "bool"
  | .str => "str"

/-- The name of a type when a message speaks of a column. -/
def CellType.columnName : CellType → String
  | .int => "Int64"
  | .float => "Float64"
  | .bool => "Bool"
  | .str => "Utf8"

/-- One value of a table. -/
inductive Cell where
  | int (value : Int64)
  | float (value : Float)
  | bool (value : Bool)
  | str (value : String)
deriving DecidableEq

namespace Cell

/-- The type of a cell. -/
def type : Cell → CellType
  | .int _ => .int
  | .float _ => .float
  | .bool _ => .bool
  | .str _ => .str

/-- 1 for true and 0 for false. -/
def bit (b : Bool) : Int64 := if b then 1 else 0

/-- The cell as a float; truth values count as 1 and 0. -/
def float? : Cell → Option Float
  | .int v => some (Number.toFloat v)
  | .float v => some v
  | .bool v => some (if v then 1.0 else 0.0)
  | .str _ => none

/-- The cell as an integer; truth values count as 1 and 0. -/
def int? : Cell → Option Int64
  | .int v => some v
  | .bool v => some (bit v)
  | .float _ | .str _ => none

/-- The cell as a truth value. -/
def bool? : Cell → Option Bool
  | .bool v => some v
  | .int _ | .float _ | .str _ => none

/-- The cell as a text. -/
def str? : Cell → Option String
  | .str v => some v
  | .int _ | .float _ | .bool _ => none

/-- Whether the cell is a float that is no number. -/
def isNaN : Cell → Bool
  | .float v => v.isNaN
  | .int _ | .bool _ | .str _ => false

/-- The cell that stands for a missing value. -/
def missing : Cell := .float (0.0 / 0.0)

/-- How a truth value is written. -/
def boolText (b : Bool) : String := if b then "true" else "false"

/-- The text of a cell. -/
def text : Cell → String
  | .int v => toString v.toInt
  | .float v => Decimal.Layout.cell.write v
  | .bool v => boolText v
  | .str v => v

/-! ## The order -/

/-- The place of a cell's type among the types. -/
def rank : Cell → Nat
  | .bool _ => 0
  | .int _ => 1
  | .float _ => 2
  | .str _ => 3

/-- The order of cells: by type, then by value. -/
def order : Cell → Cell → Ordering
  | .int a, .int b => compare a b
  | .float a, .float b => Number.order a b
  | .bool a, .bool b => compare a b
  | .str a, .str b => compare a b
  | a, b => compare a.rank b.rank

/-- The order of key tuples: the first difference decides, and a tuple comes
before the longer ones that it begins. -/
def orderKeys : List Cell → List Cell → Ordering
  | [], [] => .eq
  | [], _ :: _ => .lt
  | _ :: _, [] => .gt
  | a :: as, b :: bs => (order a b).then (orderKeys as bs)

/-! ## Fingerprints -/

/-- What is looked at to recognise an equal cell: the type and the value, a
float by the bits that stand for it among its equals. -/
inductive Fingerprint where
  | int (value : Int64)
  | float (bits : UInt64)
  | bool (value : Bool)
  | str (value : String)
deriving DecidableEq

/-- The fingerprint of a cell. -/
def fingerprint : Cell → Fingerprint
  | .int v => .int v
  | .float v => .float (Number.canonicalBits v)
  | .bool v => .bool v
  | .str v => .str v

/-- How many different cells a list holds. -/
def distinctCount (cells : List Cell) : Nat := (cells.map fingerprint).eraseDups.length

/-- Cells in ascending order, equal ones as they came. -/
def sorted (cells : List Cell) : List Cell := cells.mergeSort fun a b => (order a b).isLE

end Cell

end TableVerbs
