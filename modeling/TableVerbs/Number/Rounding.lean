import TableVerbs.Number.Order

/-!
# Rounding floats

Adding and then subtracting 2^52 rounds a smaller magnitude to a whole number,
because the floats from 2^52 on are whole numbers and addition rounds a half to
the even neighbour. That is all of rounding to even; the sign is taken off first
and put back so that a negative number that rounds to nothing gives the negative
zero.
-/

namespace TableVerbs.Number

/-- The magnitude from which every float is whole. -/
def wholeFrom : Float := 4503599627370496.0

/-- The nearest whole number, a half going to the even one. -/
def roundHalfEven (x : Float) : Float :=
  if x.abs < wholeFrom then
    let magnitude := (x.abs + wholeFrom) - wholeFrom
    if signBit x then -magnitude else magnitude
  else x

/-- A float to a natural power by repeated squaring, each product rounded:
`result` collects the factors of the bits already read. -/
def powerBySquaring (result base : Float) (n : Nat) : Float :=
  let result := if n % 2 = 1 then result * base else result
  if n / 2 = 0 then result else powerBySquaring result (base * base) (n / 2)
termination_by n
decreasing_by omega

/-- A float to an integer power: that of the magnitude, or its reciprocal. -/
def powerInt (base : Float) (n : Int) : Float :=
  let magnitude := powerBySquaring 1.0 base n.natAbs
  if n < 0 then 1.0 / magnitude else magnitude

/-- The sum of a list, as four running sums over the entries at positions 0, 1,
2 and 3 of each full block of four, which are then added in turn, and after them
the entries of the last block if it is not full. The grouping matters only to
the rounding. -/
def blockSum (lanes : Float × Float × Float × Float) : List Float → Float
  | a :: b :: c :: d :: rest =>
    blockSum (lanes.1 + a, lanes.2.1 + b, lanes.2.2.1 + c, lanes.2.2.2 + d) rest
  | rest => rest.foldl (· + ·) (lanes.1 + lanes.2.1 + lanes.2.2.1 + lanes.2.2.2)

/-- The sum of a list of floats. -/
def sum (xs : List Float) : Float := blockSum (0.0, 0.0, 0.0, 0.0) xs

end TableVerbs.Number
