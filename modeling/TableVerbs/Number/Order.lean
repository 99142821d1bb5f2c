/-!
# Comparing floats

Floats are compared in two ways. An expression compares them as IEEE 754 does,
where a NaN stands in no relation to anything; sorting and grouping need an
order without gaps, and get one by putting every NaN at one place above all
numbers. The two agree on numbers, and both hold the zeros equal.
-/

namespace TableVerbs.Number

/-- The IEEE comparison of two floats, none when either is a NaN. -/
def compare? (a b : Float) : Option Ordering :=
  if a < b then some .lt
  else if a == b then some .eq
  else if b < a then some .gt
  else none

/-- The order of floats for sorting: numbers as they compare, NaN last. -/
def order (a b : Float) : Ordering :=
  match a.isNaN, b.isNaN with
  | true, true => .eq
  | true, false => .gt
  | false, true => .lt
  | false, false => (compare? a b).getD .eq

/-- Whether the sign bit is set. -/
def signBit (x : Float) : Bool := Nat.pow 2 63 ≤ x.toBits.toNat

/-- Whether one number comes no later than another when the negative zero is put
before the positive one. -/
def notAfter (a b : Float) : Bool := a < b || (a == b && (signBit a || !signBit b))

/-- The bits that stand for a float among its equals: one pattern for the two
zeros and one for every NaN. -/
def canonicalBits (x : Float) : UInt64 :=
  if x.isNaN then (0.0 / 0.0 : Float).toBits
  else if x == 0.0 then (0.0 : Float).toBits
  else x.toBits

end TableVerbs.Number
