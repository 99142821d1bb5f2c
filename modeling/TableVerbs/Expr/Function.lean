import TableVerbs.Expr.Broadcast
import TableVerbs.Number.Rounding

/-!
# The functions of every expression

Five functions on numbers, applied value by value: `abs`, `sqrt`, `exp`, `log`
and `round`. A truth value is no number to them. `round` may be given a number
of decimal places, negative ones rounding to tens and hundreds; a half goes to
the even neighbour, and integers change only for negative places.
-/

namespace TableVerbs

/-- A function that expressions can call. -/
abbrev Function := List Datum → Except Error Datum

namespace Function

/-- Applies `f` to every number of a datum, for the function called `name`. -/
def onNumbers (name : String) (f : Cell → Cell) (a : Datum) : Except Error Datum :=
  let check : Cell → Except Error Cell := fun v =>
    if Column.isNumber v then .ok (f v) else .error (.notNumber name v.type)
  match a with
  | .cell v => (check v).map .cell
  | .column c => (c.mapCells c.type check).map .column

/-- A function of one argument, applied to every number of it. -/
def ofNumber (name : String) (f : Cell → Cell) : Function
  | [a] => onNumbers name f a
  | args => .error (.oneArgument name args.length)

/-- A cell after a function on floats. -/
def onFloat (f : Float → Float) (v : Cell) : Cell := .float (f (v.float?.getD (0.0 / 0.0)))

/-- The magnitude of a number. That of the least integer is itself. -/
def magnitude : Cell → Cell
  | .int v => .int v.abs
  | v => onFloat Float.abs v

/-- The number of decimal places that `round` works with at most. -/
def maxPlaces : Int := 308

/-- Rounds a float to decimal places: scaled up, rounded, scaled down. -/
def roundFloat (places : Int64) (x : Float) : Float :=
  let scale := Number.powerInt 10.0 (max (-maxPlaces) (min places.toInt maxPlaces))
  Number.roundHalfEven (x * scale) / scale

/-- Rounds a number to decimal places. -/
def roundTo (places : Int64) (v : Cell) : Cell :=
  if v.type = .int ∧ 0 ≤ places then v else onFloat (roundFloat places) v

/-- The function `round`. -/
def round : Function
  | [a] => onNumbers "round" (roundTo 0) a
  | [a, .cell (.int places)] => onNumbers "round" (roundTo places) a
  | _ => .error .roundArguments

/-- The function of a name. -/
def builtin? (name : String) : Option Function :=
  match name with
  | "abs" => some (ofNumber "abs" magnitude)
  | "sqrt" => some (ofNumber "sqrt" (onFloat Float.sqrt))
  | "exp" => some (ofNumber "exp" (onFloat Float.exp))
  | "log" => some (ofNumber "log" (onFloat Float.log))
  | "round" => some round
  | _ => none

end Function

end TableVerbs
