import Mathlib.Data.Ordering.Basic
import TableVerbs.Cell

/-!
# The order of cells is one

Sorting and grouping rest on the order of cells being reflexive, transitive and
the reverse of itself with its arguments exchanged. The machine's comparison of
floats has none of this at a NaN, and holds two different bit patterns equal at
zero, so the laws are not there for the asking.

They are got by coordinates. Every float has a side, from the negative infinity
over zero to the NaNs, and among the finite ones of a side an exponent and a
mantissa; the order of floats is the lexicographic order of the three. Every
cell has a rank and a value for each of the four types, with a constant in the
place of the types that it is not of, and the order of cells is again
lexicographic. The laws of a lexicographic order are those of its parts.
-/

namespace TableVerbs

namespace Number

open Float.Model

/-! ## Floats -/

/-- Where a float stands on the line, as far as signs tell. -/
def side : UnpackedFloat → Int
  | .infinity .negative => -2
  | .finite .negative _ _ _ => -1
  | .zero _ => 0
  | .finite .positive _ _ _ => 1
  | .infinity .positive => 2
  | .notANumber => 3

/-- The exponent of a finite float, turned around on the negative side. -/
def exponent : UnpackedFloat → Int
  | .finite .negative _ e _ => -e
  | .finite .positive _ e _ => e
  | .infinity _ | .zero _ | .notANumber => 0

/-- The mantissa of a finite float, turned around on the negative side. -/
def mantissa : UnpackedFloat → Int
  | .finite .negative m _ _ => -m
  | .finite .positive m _ _ => m
  | .infinity _ | .zero _ | .notANumber => 0

/-- The order of floats by their three coordinates. -/
def orderPlaces : UnpackedFloat → UnpackedFloat → Ordering :=
  compareLex (compareOn side) (compareLex (compareOn exponent) (compareOn mantissa))

theorem lt_iff_unpack {a b : Float} :
    a < b ↔ a.toModel.unpack.compare b.toModel.unpack = some .lt := by
  show a.lt b = true ↔ _
  rw [Float.lt, decide_eq_true_iff]
  exact beq_iff_eq

theorem beq_iff_unpack {a b : Float} :
    (a == b) = true ↔ a.toModel.unpack.compare b.toModel.unpack = some .eq := by
  show (a.toModel.unpack.compare b.toModel.unpack == some Ordering.eq) = true ↔ _
  exact beq_iff_eq

theorem compare_neg_neg (a b : Int) : compare (-a) (-b) = (compare a b).swap := by
  rw [Int.compare_swap]
  simp only [compare, compareOfLessAndEq]
  grind

theorem compare_natCast (a b : Nat) : compare (a : Int) (b : Int) = compare a b := by
  simp only [compare, compareOfLessAndEq]
  grind

/-- Numbers compare as their places do. -/
theorem compare_eq_orderPlaces {x y : UnpackedFloat} (hx : x.isNaN = false)
    (hy : y.isNaN = false) : x.compare y = some (orderPlaces x y) := by
  cases x with
  | notANumber => cases hx
  | infinity s | zero s =>
      cases y with
      | notANumber => cases hy
      | infinity s' | zero s' => cases s <;> cases s' <;> rfl
      | finite s' m e h => cases s <;> cases s' <;> rfl
  | finite s m e h =>
      cases y with
      | notANumber => cases hy
      | infinity s' | zero s' => cases s <;> cases s' <;> rfl
      | finite s' m' e' h' =>
          -- only within one side do exponent and mantissa count
          have hplaces : orderPlaces (.finite s m e h) (.finite s' m' e' h') =
              (compare (side (.finite s m e h)) (side (.finite s' m' e' h'))).then
                ((compare (exponent (.finite s m e h)) (exponent (.finite s' m' e' h'))).then
                  (compare (mantissa (.finite s m e h)) (mantissa (.finite s' m' e' h')))) := rfl
          rw [hplaces]
          cases s with
          | negative =>
              cases s' with
              | positive => rfl
              | negative =>
                  have hcompare : (compare (-e) (-e')).then (compare (-(m : Int)) (-(m' : Int))) =
                      ((compare e e').then (compare m m')).swap := by
                    rw [compare_neg_neg, compare_neg_neg, compare_natCast, Ordering.swap_then]
                  exact congrArg some hcompare.symm
          | positive =>
              cases s' with
              | negative => rfl
              | positive =>
                  have hcompare : (compare e e').then (compare (m : Int) (m' : Int)) =
                      (compare e e').then (compare m m') := by
                    rw [compare_natCast]
                  exact congrArg some hcompare.symm

theorem orderPlaces_nan {x y : UnpackedFloat} (hx : x.isNaN = true) :
    orderPlaces x y = if y.isNaN then .eq else .gt := by
  cases x with
  | infinity s | zero s | finite s => cases hx
  | notANumber =>
      cases y with
      | notANumber => rfl
      | zero s => rfl
      | infinity s => cases s <;> rfl
      | finite s m e h => cases s <;> rfl

instance : Std.TransCmp orderPlaces := by
  unfold orderPlaces
  infer_instance

/-- Floats compare as the order of their places says, unless one of them is a NaN. -/
theorem compare?_eq_orderPlaces {a b : Float} (ha : a.isNaN = false) (hb : b.isNaN = false) :
    compare? a b = some (orderPlaces a.toModel.unpack b.toModel.unpack) := by
  have hforth := compare_eq_orderPlaces ha hb
  have hback := compare_eq_orderPlaces hb ha
  rw [@Std.OrientedCmp.eq_swap _ orderPlaces] at hback
  simp only [compare?, lt_iff_unpack, beq_iff_unpack, hforth, hback]
  cases orderPlaces a.toModel.unpack b.toModel.unpack <;> rfl

/-- The order of floats is that of their places. -/
theorem order_eq_orderPlaces (a b : Float) :
    order a b = orderPlaces a.toModel.unpack b.toModel.unpack := by
  have ha : a.isNaN = a.toModel.unpack.isNaN := rfl
  have hb : b.isNaN = b.toModel.unpack.isNaN := rfl
  rw [order, ha, hb]
  cases hx : a.toModel.unpack.isNaN with
  | true =>
      rw [orderPlaces_nan hx]
      cases b.toModel.unpack.isNaN <;> rfl
  | false =>
      cases hy : b.toModel.unpack.isNaN with
      | true =>
          rw [@Std.OrientedCmp.eq_swap _ orderPlaces, orderPlaces_nan hy, hx]
          rfl
      | false =>
          rw [compare?_eq_orderPlaces hx hy]
          rfl

instance : Std.TransCmp order where
  eq_swap := by
    intro a b
    rw [order_eq_orderPlaces, order_eq_orderPlaces]
    exact Std.OrientedCmp.eq_swap
  isLE_trans := by
    intro a b c hab hbc
    rw [order_eq_orderPlaces] at hab hbc ⊢
    exact Std.TransCmp.isLE_trans hab hbc

end Number

/-! ## Cells -/

namespace Cell

/-- The truth value of a cell, false for cells of other types. -/
def boolPart : Cell → Bool
  | .bool v => v
  | .int _ | .float _ | .str _ => false

/-- The integer of a cell, 0 for cells of other types. -/
def intPart : Cell → Int64
  | .int v => v
  | .bool _ | .float _ | .str _ => 0

/-- The float of a cell, 0 for cells of other types. -/
def floatPart : Cell → Float
  | .float v => v
  | .bool _ | .int _ | .str _ => 0.0

/-- The text of a cell, the empty one for cells of other types. -/
def strPart : Cell → String
  | .str v => v
  | .bool _ | .int _ | .float _ => ""

/-- The order of cells by their five coordinates. -/
def orderParts : Cell → Cell → Ordering :=
  compareLex (compareOn rank) (compareLex (compareOn boolPart)
    (compareLex (compareOn intPart)
      (compareLex (fun a b => Number.order a.floatPart b.floatPart) (compareOn strPart))))

instance : Std.TransCmp fun a b : Cell => Number.order a.floatPart b.floatPart where
  eq_swap := by
    intro a b
    exact @Std.OrientedCmp.eq_swap _ Number.order _ _ _
  isLE_trans := by
    intro a b c
    exact @Std.TransCmp.isLE_trans _ Number.order _ _ _ _

instance : Std.TransCmp orderParts := by
  unfold orderParts
  infer_instance

theorem order_eq_orderParts : order = orderParts := by
  funext a b
  have hzero : Number.order 0.0 0.0 = .eq := Std.ReflCmp.compare_self
  -- cells of two types differ in their ranks, and cells of one type only in its own coordinate
  cases a with
  | bool x =>
      cases b with
      | bool y => simp [order, orderParts, compareLex, compareOn, boolPart, intPart, floatPart,
          strPart, rank, hzero]
      | int y | float y | str y => rfl
  | int x =>
      cases b with
      | int y => simp [order, orderParts, compareLex, compareOn, boolPart, intPart, floatPart,
          strPart, rank, hzero]
      | bool y | float y | str y => rfl
  | float x =>
      cases b with
      | float y => simp [order, orderParts, compareLex, compareOn, boolPart, intPart, floatPart,
          strPart, rank]
      | bool y | int y | str y => rfl
  | str x =>
      cases b with
      | str y => simp [order, orderParts, compareLex, compareOn, boolPart, intPart, floatPart,
          strPart, rank, hzero]
      | bool y | int y | float y => rfl

instance : Std.TransCmp order := order_eq_orderParts ▸ inferInstanceAs (Std.TransCmp orderParts)

theorem orderKeys_eq_compareLex (as bs : List Cell) :
    orderKeys as bs = List.compareLex order as bs := by
  induction as generalizing bs with
  | nil => cases bs <;> rfl
  | cons a as ih =>
      cases bs with
      | nil => rfl
      | cons b bs => rw [orderKeys, List.compareLex_cons_cons, ih]

instance : Std.TransCmp orderKeys where
  eq_swap := by
    intro a b
    rw [orderKeys_eq_compareLex, orderKeys_eq_compareLex]
    exact Std.OrientedCmp.eq_swap
  isLE_trans := by
    intro a b c hab hbc
    rw [orderKeys_eq_compareLex] at hab hbc ⊢
    exact Std.TransCmp.isLE_trans hab hbc

end Cell

end TableVerbs
