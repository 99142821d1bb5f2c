import TableVerbs.Number.Exact

/-!
# Reading numbers

The two number grammars of this library, on whole texts: an integer is a sign
and digits within 64 bits, a float is a sign and either a decimal with an
optional power of ten or one of the words for infinity and NaN. A text with
anything left over is no number, so blanks have to be taken off first.

A decimal is handed over as an integer and a power of ten and rounded once, to
the nearest float.
-/

namespace TableVerbs.Decimal

/-- The number that a run of digits stands for. -/
def digitsValue (ds : List Char) : Nat :=
  ds.foldl (fun n d => 10 * n + (d.toNat - '0'.toNat)) 0

/-- An optional sign, and whether it was a minus. -/
def splitSign : List Char → Bool × List Char
  | '-' :: rest => (true, rest)
  | '+' :: rest => (false, rest)
  | cs => (false, cs)

/-- A non-empty run of digits and nothing else. -/
def readDigits? (cs : List Char) : Option Nat :=
  if cs ≠ [] ∧ cs.all Char.isDigit then some (digitsValue cs) else none

/-- Reads a 64-bit integer: an optional sign, then digits. -/
def readInt? (cs : List Char) : Option Int64 :=
  let (negative, digits) := splitSign cs
  match readDigits? digits with
  | some n => Number.narrow? (if negative then -(n : Int) else n)
  | none => none

/-- The float nearest to `digits * 10 ^ power`. -/
def nearest (digits : Nat) (power : Int) : Float :=
  Float.ofScientific digits (power < 0) power.natAbs

/-- The power of ten after a mantissa: nothing, or `e` with a signed number. -/
def readPower? : List Char → Option Int
  | [] => some 0
  | c :: rest =>
    if c = 'e' ∨ c = 'E' then
      let (negative, digits) := splitSign rest
      (readDigits? digits).map fun n => if negative then -(n : Int) else n
    else none

/-- Reads digits with an optional point and an optional power of ten. There has
to be a digit before or after the point. -/
def readDecimal? (cs : List Char) : Option Float :=
  let whole := cs.takeWhile Char.isDigit
  let afterWhole := cs.dropWhile Char.isDigit
  let (places, rest) :=
    match afterWhole with
    | '.' :: more => (more.takeWhile Char.isDigit, more.dropWhile Char.isDigit)
    | _ => ([], afterWhole)
  if whole = [] ∧ places = [] then none
  else (readPower? rest).map fun power =>
    nearest (digitsValue (whole ++ places)) (power - (places.length : Int))

/-- The words for infinity and NaN, in any case. -/
def readWord? (cs : List Char) : Option Float :=
  match String.ofList (cs.map Char.toLower) with
  | "inf" => some (1.0 / 0.0)
  | "infinity" => some (1.0 / 0.0)
  | "nan" => some (0.0 / 0.0)
  | _ => none

/-- Reads a float: an optional sign, then a word or a decimal. -/
def readFloat? (cs : List Char) : Option Float :=
  let (negative, rest) := splitSign cs
  let magnitude := (readWord? rest).or (readDecimal? rest)
  magnitude.map fun x => if negative then -x else x

end TableVerbs.Decimal
