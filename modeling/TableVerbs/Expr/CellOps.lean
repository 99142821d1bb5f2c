import TableVerbs.Error

/-!
# Operators on cells

What an operator does to one row. Integers stay integers as long as the result
is one and fits; truth values count as 1 and 0 in arithmetic; a float on either
side makes the operation one of floats; texts can be joined and compared with
texts and nothing else.

Comparing for equality always has an answer, since a text simply differs from a
number. The other comparisons between them are errors.
-/

namespace TableVerbs

namespace Cell

/-- Negation. -/
def negate : Cell → Except Error Cell
  | .int v =>
    match Number.neg? v with
    | some n => .ok (.int n)
    | none => .error .overflow
  | .float v => .ok (.float (-v))
  | .bool _ => .error (.badNegation .bool)
  | .str _ => .error (.badNegation .str)

/-- The opposite truth value. -/
def complement : Cell → Except Error Cell
  | .bool v => .ok (.bool (!v))
  | .int _ => .error (.badNot .int)
  | .float _ => .error (.badNot .float)
  | .str _ => .error (.badNot .str)

/-- How two cells compare: `none` if their types do not compare, and no ordering
inside if a NaN is involved. -/
def relation? : Cell → Cell → Option (Option Ordering)
  | .str a, .str b => some (some (compare a b))
  | .bool a, .bool b => some (some (compare a b))
  | .int a, .int b => some (some (compare a b))
  | a, b =>
    match a.float?, b.float? with
    | some x, some y => some (Number.compare? x y)
    | _, _ => none

end Cell

/-- Applies an operator to one cell. -/
def UnaryOp.apply : UnaryOp → Cell → Except Error Cell
  | .neg, a => a.negate
  | .not, a => a.complement

/-- Whether a comparison holds between values that relate in this way. Without
an ordering only inequality holds. -/
def Comparison.holds : Comparison → Option Ordering → Bool
  | .ne, none => true
  | _, none => false
  | .eq, some o => o == .eq
  | .ne, some o => o != .eq
  | .lt, some o => o == .lt
  | .le, some o => o != .gt
  | .gt, some o => o == .gt
  | .ge, some o => o != .lt

/-- The error for operands that an operator cannot take. -/
def BinaryOp.refuse (op : BinaryOp) (a b : Cell) : Error := .badOperands op a.type b.type

/-- Compares two cells. -/
def Comparison.apply (op : Comparison) (a b : Cell) : Except Error Bool :=
  match a.relation? b with
  | some o => .ok (op.holds o)
  | none =>
    match op with
    | .eq => .ok false
    | .ne => .ok true
    | .lt | .le | .gt | .ge => .error (BinaryOp.refuse (.comparison op) a b)

/-- Joins two truth values. -/
def Connective.apply (op : Connective) (a b : Cell) : Except Error Bool :=
  match op, a, b with
  | .and, .bool x, .bool y => .ok (x && y)
  | .or, .bool x, .bool y => .ok (x || y)
  | _, _, _ => .error (BinaryOp.refuse (.connective op) a b)

namespace Arithmetic

/-- An exact integer result as a cell. -/
def exactly : Option Int64 → Except Error Cell
  | some n => .ok (.int n)
  | none => .error .overflow

/-- The largest exponent of an integer power. -/
def maxExponent : Nat := 4294967295

/-- Arithmetic on integers. Plain division and negative powers leave them. -/
def onInts (op : Arithmetic) (a b : Int64) : Except Error Cell :=
  match op with
  | .add => exactly (Number.add? a b)
  | .sub => exactly (Number.sub? a b)
  | .mul => exactly (Number.mul? a b)
  | .div => .ok (.float (Number.toFloat a / Number.toFloat b))
  | .floorDiv => if b = 0 then .error .divisionByZero else .ok (.int (Number.floorDiv a b))
  | .mod => if b = 0 then .error .moduloByZero else .ok (.int (Number.floorMod a b))
  | .pow =>
    if b < 0 then .ok (.float (Float.pow (Number.toFloat a) (Number.toFloat b)))
    else if maxExponent < b.toInt.toNat then .error .overflow
    else exactly (Number.pow? a b.toInt.toNat)

/-- Arithmetic on floats. -/
def onFloats (op : Arithmetic) (a b : Float) : Float :=
  match op with
  | .add => a + b
  | .sub => a - b
  | .mul => a * b
  | .div => a / b
  | .floorDiv => (a / b).floor
  | .mod => a - b * (a / b).floor
  | .pow => Float.pow a b

/-- Arithmetic on cells. -/
def apply (op : Arithmetic) (a b : Cell) : Except Error Cell :=
  match a, b with
  | .str x, .str y =>
    if op = .add then .ok (.str (x ++ y)) else .error (BinaryOp.refuse (.arithmetic op) a b)
  | a, b =>
    match a.int?, b.int? with
    | some x, some y => op.onInts x y
    | _, _ =>
      match a.float?, b.float? with
      | some x, some y => .ok (.float (op.onFloats x y))
      | _, _ => .error (BinaryOp.refuse (.arithmetic op) a b)

end Arithmetic

/-- Applies an operator to two cells. -/
def BinaryOp.apply (op : BinaryOp) (a b : Cell) : Except Error Cell :=
  match op with
  | .arithmetic op => op.apply a b
  | .comparison op => (op.apply a b).map .bool
  | .connective op => (op.apply a b).map .bool

end TableVerbs
