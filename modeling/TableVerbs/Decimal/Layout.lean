import TableVerbs.Decimal.Shortest

/-!
# Writing a float

The digits of a float are settled by `Decimal.Shortest`; what is left are the
decisions of a text format, and a `Layout` lists them. Two layouts are used in
this library: cells are always written positionally and a whole number has no
point, while a message that quotes a number from an expression marks it as a
float and moves to an exponent for very large and very small ones.
-/

namespace TableVerbs.Decimal

/-- The decisions of a text format for floats. -/
structure Layout where
  /-- Whether a whole number is written with `.0`. -/
  marksWhole : Bool
  /-- Outside `10 ^ low ≤ x < 10 ^ high` an exponent is written; `none`: never. -/
  positional : Option (Int × Int)

/-- Cells: positional, whole numbers bare. -/
def Layout.cell : Layout := ⟨false, none⟩

/-- Numbers quoted from an expression: `1.0`, `2.5`, `1e16`, `9e-5`. -/
def Layout.quoted : Layout := ⟨true, some (-4, 16)⟩

/-- `n` zeros. -/
def zeros (n : Nat) : List Char := List.replicate n '0'

/-- The digits of a natural number. -/
def digitChars (n : Nat) : List Char := Nat.toDigits 10 n

/-- A decimal in positional form. -/
def Digits.positional (l : Layout) (d : Digits) : List Char :=
  let ds := digitChars d.digits
  if 0 ≤ d.scale then
    ds ++ zeros d.scale.toNat ++ (if l.marksWhole then ['.', '0'] else [])
  else
    let places := (-d.scale).toNat
    let padded := zeros (places + 1 - ds.length) ++ ds
    let whole := padded.length - places
    padded.take whole ++ '.' :: padded.drop whole

/-- A decimal in exponent form: one digit, a point if more follow, the power. -/
def Digits.exponential (d : Digits) : List Char :=
  let ds := digitChars d.digits
  let power := d.scale + (ds.length - 1 : Nat)
  let head := match ds with
    | [] => []
    | [c] => [c]
    | c :: rest => c :: '.' :: rest
  head ++ 'e' :: (if power < 0 then ['-'] else []) ++ digitChars power.natAbs

/-- A positive decimal in the form that the layout asks for. -/
def Layout.digits (l : Layout) (d : Digits) : List Char :=
  let power := d.scale + ((digitChars d.digits).length - 1 : Nat)
  match l.positional with
  | none => d.positional l
  | some (low, high) => if low ≤ power && power < high then d.positional l else d.exponential

/-- The text of a float. The sign of a zero is written, that of a NaN is not. -/
def Layout.write (l : Layout) (x : Float) : String :=
  if x.isNaN then "NaN"
  else
    let b := Binary.ofFloat x
    let magnitude :=
      if x.isInf then ['i', 'n', 'f']
      else if b.significand = 0 then Digits.positional l ⟨0, 0⟩
      else l.digits b.shortest
    String.ofList (if b.negative then '-' :: magnitude else magnitude)

end TableVerbs.Decimal
