/-!
# Exact 64-bit arithmetic

Cells that hold integers hold 64-bit ones, and an operation on them gives the
integer result or none at all. Each operation here is therefore stated over the
unbounded integers first and narrowed afterwards, so that what it computes and
when it fails are the same sentence.

Division is the exception. It is the truncating division of the machine,
corrected by one when the remainder is not zero and its sign differs from the
divisor's, which is floor division; the remainder is corrected by the divisor on
the same inputs.
-/

namespace TableVerbs.Number

/-- The 64-bit integer of this value, if there is one. -/
def narrow? (n : Int) : Option Int64 :=
  if -(Int.pow 2 63) ≤ n ∧ n < Int.pow 2 63 then some (Int64.ofInt n) else none

/-- The sum, if it fits. -/
def add? (a b : Int64) : Option Int64 := narrow? (a.toInt + b.toInt)

/-- The difference, if it fits. -/
def sub? (a b : Int64) : Option Int64 := narrow? (a.toInt - b.toInt)

/-- The product, if it fits. -/
def mul? (a b : Int64) : Option Int64 := narrow? (a.toInt * b.toInt)

/-- The negation, if it fits. -/
def neg? (a : Int64) : Option Int64 := narrow? (-a.toInt)

/-- The power, if it fits. Beyond -1, 0 and 1 no base has a 64th power that
does, so no large power is ever computed. -/
def pow? (a : Int64) (n : Nat) : Option Int64 :=
  if a = 0 ∨ a = 1 then some (if n = 0 then 1 else a)
  else if a = -1 then some (if n % 2 = 0 then 1 else -1)
  else if 64 ≤ n then none
  else narrow? (Int.pow a.toInt n)

/-- Whether a truncating division of `a` by `b` has to be corrected to reach the
floor: the remainder is not zero and the operands have different signs. -/
def roundsUp (a b : Int64) : Bool := a % b != 0 && (decide (a < 0) != decide (b < 0))

/-- Division rounded to the floor, for a divisor that is not zero. -/
def floorDiv (a b : Int64) : Int64 := if roundsUp a b then a / b - 1 else a / b

/-- The remainder of floor division, for a divisor that is not zero: it is zero
or has the sign of the divisor. -/
def floorMod (a b : Int64) : Int64 :=
  if a % b != 0 && (decide (a % b < 0) != decide (b < 0)) then a % b + b else a % b

/-- The float nearest to an integer. -/
def toFloat (n : Int64) : Float := Float.ofInt n.toInt

end TableVerbs.Number
