/-!
# The shortest decimal that reads back

A binary float stands for every real number that rounds to it, so the honest
decimal text of a float is the one with the fewest digits among the decimals in
that interval, and of those the one nearest to the float itself. Two equally
near ones exist only when the float lies half way between them; the larger is
taken.

Nothing here is floating. A float is taken apart into an integer times a power
of two, the interval and the decimal grid are brought to a common unit, and the
rest is comparison of natural numbers. The search looks at grids of one digit,
two digits and so on, and on each only at the two neighbours of the value: if
any point of a grid lies in the interval, so does one of these two.
-/

namespace TableVerbs.Decimal

/-- A finite float as `significand * 2 ^ exponent`, with the sign apart. -/
structure Binary where
  /-- Whether the sign bit is set. -/
  negative : Bool
  /-- The integer significand, below `2 ^ 53`. -/
  significand : Nat
  /-- The power of two. -/
  exponent : Int
deriving DecidableEq

/-- The parts of a finite float, read off its bits. -/
def Binary.ofFloat (x : Float) : Binary :=
  let bits := x.toBits.toNat
  let fraction := bits % Nat.pow 2 52
  let biased : Nat := bits / Nat.pow 2 52 % Nat.pow 2 11
  { negative := bits / Nat.pow 2 63 == 1
    significand := if biased = 0 then fraction else fraction + Nat.pow 2 52
    exponent := (max biased 1 : Int) - 1075 }

/-- A decimal `digits * 10 ^ scale`. -/
structure Digits where
  /-- The digits as one natural number. -/
  digits : Nat
  /-- The power of ten. -/
  scale : Int
deriving DecidableEq

/-- The value of a float and the ends of its interval, in quarters of the last
place: an even significand owns its ends. -/
structure Span where
  /-- The lower end. -/
  low : Nat
  /-- The float itself. -/
  value : Nat
  /-- The upper end. -/
  high : Nat
  /-- Whether the two ends round to the float. -/
  closed : Bool

/-- The interval of a positive float. Below a power of two the floats lie twice
as dense, so there the lower half is half as wide. -/
def Binary.span (b : Binary) : Span :=
  let narrow := b.significand == Nat.pow 2 52 && b.exponent > -1074
  { low := 4 * b.significand - (if narrow then 1 else 2)
    value := 4 * b.significand
    high := 4 * b.significand + 2
    closed := b.significand % 2 == 0 }

/-- Whether a point lies in the interval. -/
def Span.holds (s : Span) (point : Nat) : Bool :=
  if s.closed then s.low ≤ point && point ≤ s.high else s.low < point && point < s.high

/-- An interval in a finer unit. -/
def Span.scale (s : Span) (factor : Nat) : Span :=
  { s with low := s.low * factor, value := s.value * factor, high := s.high * factor }

/-- The point of the grid of multiples of `10 ^ scale` that is nearest to the
float among the two around it, if either reads back as the float. -/
def Binary.onGrid? (b : Binary) (scale : Int) : Option Digits :=
  let quarter := b.exponent - 2
  let span := b.span.scale (Nat.pow 2 quarter.toNat * Nat.pow 10 (-scale).toNat)
  let step := Nat.pow 10 scale.toNat * Nat.pow 2 (-quarter).toNat
  let below := span.value / step
  let nearBelow := 2 * (span.value - below * step) < step
  match span.holds (below * step), span.holds ((below + 1) * step) with
  | true, true => some ⟨if nearBelow then below else below + 1, scale⟩
  | true, false => some ⟨below, scale⟩
  | false, true => some ⟨below + 1, scale⟩
  | false, false => none

/-- The power of ten of the first digit: the greatest `p` with `10 ^ p` at most
the value. The logarithm gives it up to one. -/
def Binary.leadingPower (b : Binary) : Int :=
  let guess := ((Nat.log2 b.significand : Int) + b.exponent) * 30103 / 100000
  let next := guess + 1
  if Nat.pow 10 next.toNat * Nat.pow 2 (-b.exponent).toNat ≤
      b.significand * Nat.pow 2 b.exponent.toNat * Nat.pow 10 (-next).toNat
  then next else guess

/-- A decimal without trailing zeros among its digits. -/
def Digits.stripped (d : Digits) : Digits :=
  if d.digits % 10 = 0 ∧ d.digits ≠ 0
  then Digits.stripped ⟨d.digits / 10, d.scale + 1⟩
  else d
termination_by d.digits
decreasing_by omega

/-- The shortest decimal that reads back as the given positive float. Seventeen
digits always do. -/
def Binary.shortest (b : Binary) : Digits :=
  let top := b.leadingPower
  match (List.range 17).findSome? fun (n : Nat) => b.onGrid? (top - (n : Int)) with
  | some d => d.stripped
  | none => ⟨0, 0⟩

end TableVerbs.Decimal
