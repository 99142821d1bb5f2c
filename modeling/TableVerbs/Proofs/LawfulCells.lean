import Mathlib
import TableVerbs.Proofs.Fingerprints

/-!
# Cells are lawful keys

A map from keys, a sort and a set of fingerprints all look at cells in their own way,
and they fit together only if the order of cells is an order, if it holds cells equal
that are the same value, and if such cells have one fingerprint. The order laws are
those of its coordinates. What is the same value is told here without the order: one
type and one value, floats by the comparison of the machine, and every NaN like every
other.

Floats are bit patterns, and many patterns are a NaN. What the order makes of two
patterns is therefore said of the patterns as well: it holds two different ones equal
if both are zeros or both are NaNs, and never otherwise.
-/

namespace TableVerbs

/-- What a comparison has to obey if rows are to be sorted and grouped by it. -/
structure LawfulOrder {α : Type} (order : α → α → Ordering) : Prop where
  refl : ∀ a, order a a = .eq
  total : ∀ a b, (order a b).isLE ∨ (order b a).isLE
  swap : ∀ a b, order b a = (order a b).swap
  lt_trans : ∀ a b c, order a b = .lt → order b c = .lt → order a c = .lt
  eq_trans : ∀ a b c, order a b = .eq → order b c = .eq → order a c = .eq

theorem LawfulOrder.of_transCmp {α : Type} (order : α → α → Ordering) [Std.TransCmp order] :
    LawfulOrder order where
  refl _ := Std.ReflCmp.compare_self
  total a b := by
    rw [@Std.OrientedCmp.eq_swap _ order _ b a]
    cases order a b with
    | lt | eq => exact .inl rfl
    | gt => exact .inr rfl
  swap _ _ := Std.OrientedCmp.eq_swap
  lt_trans _ _ _ := Std.TransCmp.lt_trans
  eq_trans _ _ _ := Std.TransCmp.eq_trans

/-! ## Bit patterns -/

namespace Number

open Float.Model

/-- The bit patterns that are a NaN: behind the sign, the greatest exponent and a
mantissa that is not zero. -/
def IsNaNPattern (bits : UInt64) : Prop := 2047 * 2 ^ 52 < bits.toNat % 2 ^ 63

/-- The bit patterns that are a zero, whatever their sign. -/
def IsZeroPattern (bits : UInt64) : Prop := bits.toNat % 2 ^ 63 = 0

instance (bits : UInt64) : Decidable (IsNaNPattern bits) := inferInstanceAs (Decidable (_ < _))

instance (bits : UInt64) : Decidable (IsZeroPattern bits) := inferInstanceAs (Decidable (_ = _))

section

variable {bits : UInt64}

theorem isNaNPattern_iff :
    IsNaNPattern bits ↔ @UnpackedFloat.isNaNBits Format.binary64 bits.toBitVec = true := by
  have hexponent : (@UnpackedFloat.unpackExponent Format.binary64 bits.toBitVec).toNat =
      bits.toNat / 2 ^ 52 % 2 ^ 11 := by
    rw [UnpackedFloat.unpackExponent_def, BitVec.extractLsb'_toNat, Nat.shiftRight_eq_div_pow]
    rfl
  have hmantissa : (@UnpackedFloat.unpackMantissa Format.binary64 bits.toBitVec).toNat =
      bits.toNat % 2 ^ 52 := by
    rw [UnpackedFloat.unpackMantissa_def, BitVec.extractLsb'_toNat, Nat.shiftRight_zero]
    rfl
  have hgreatest : (-BitVec.ofNat Format.binary64.exponentBits 1).toNat = 2047 := by decide
  have hzero : (BitVec.ofNat Format.binary64.mantissaBitsWithoutImplicit 0).toNat = 0 := by decide
  rw [UnpackedFloat.isNaNBits, decide_eq_true_eq, ← BitVec.toNat_inj, ne_eq, ← BitVec.toNat_inj,
    hexponent, hmantissa, hgreatest, hzero, IsNaNPattern]
  omega

/-- A float keeps its pattern, except that all NaNs are one float. -/
theorem toBits_ofBits (bits : UInt64) :
    (Float.ofBits bits).toBits = if IsNaNPattern bits then Float.nan.toBits else bits := by
  show UInt64.ofBitVec (UnpackedFloat.pack Format.binary64
    (UnpackedFloat.unpack Format.binary64 bits.toBitVec)) = _
  rw [UnpackedFloat.pack_unpack]
  simp only [← isNaNPattern_iff]
  split <;> rfl

theorem isNaN_ofBits (bits : UInt64) : (Float.ofBits bits).isNaN = decide (IsNaNPattern bits) := by
  have hnan : IsNaNPattern Float.nan.toBits := by decide +kernel
  rw [Float.isNaN_eq_decide_eq_nan, decide_eq_decide, ← Float.toBits_inj, toBits_ofBits]
  split
  · next h => exact iff_of_true rfl h
  · next h => exact iff_of_false (fun e => h (e ▸ hnan)) h

theorem ofBits_eq_iff (h : ¬IsNaNPattern bits) {x : Float} :
    Float.ofBits bits = x ↔ bits.toNat = x.toBits.toNat := by
  rw [← Float.toBits_inj, toBits_ofBits, if_neg h, UInt64.toNat_inj]

theorem ofBits_beq_zero (h : ¬IsNaNPattern bits) :
    (Float.ofBits bits == 0.0) = true ↔ IsZeroPattern bits := by
  have hzero : (0.0 : Float) = 0 := by decide +kernel
  have hnumber : (0 : Float) ≠ .nan := by decide +kernel
  have hsigns : (0 : Float) ≠ -0 := by decide +kernel
  have hnan : Float.ofBits bits ≠ .nan := by
    intro e
    have hisNaN := isNaN_ofBits bits
    rw [decide_eq_false h, e] at hisNaN
    cases hisNaN
  have hpositive : Float.ofBits bits = 0 ↔ bits.toNat = 0 := ofBits_eq_iff h
  have hnegative : Float.ofBits bits = -0 ↔ bits.toNat = 2 ^ 63 := ofBits_eq_iff h
  have hlt := bits.toNat_lt
  rw [hzero, Float.beq_iff_ne_nan_and_eq, hpositive, hnegative, IsZeroPattern]
  simp only [ne_eq, hnan, hnumber, hsigns, not_false_eq_true, true_and, and_true, and_false,
    false_or]
  omega

theorem canonicalBits_ofBits (bits : UInt64) :
    (canonicalBits (.ofBits bits)).toNat =
      if IsNaNPattern bits then 4095 * 2 ^ 51 else
        if IsZeroPattern bits then 0 else bits.toNat := by
  have hnan : (0.0 / 0.0 : Float).toBits.toNat = 4095 * 2 ^ 51 := by decide +kernel
  have hzero : (0.0 : Float).toBits.toNat = 0 := by decide +kernel
  rw [canonicalBits, isNaN_ofBits]
  by_cases h : IsNaNPattern bits
  · rw [decide_eq_true h, if_pos rfl, if_pos h, hnan]
  · rw [decide_eq_false h, if_neg Bool.false_ne_true, if_neg h]
    simp only [ofBits_beq_zero h]
    split
    · exact hzero
    · rw [toBits_ofBits, if_neg h]

end

/-- Different patterns are in one place only as two zeros or as two NaNs. -/
theorem order_ofBits {p q : UInt64} :
    order (.ofBits p) (.ofBits q) = .eq ↔
      p = q ∨ IsZeroPattern p ∧ IsZeroPattern q ∨ IsNaNPattern p ∧ IsNaNPattern q := by
  rw [← canonicalBits_eq_iff, ← UInt64.toNat_inj, canonicalBits_ofBits, canonicalBits_ofBits,
    ← UInt64.toNat_inj]
  -- the patterns that stand for the NaNs and for the zeros are of their own kind
  simp only [IsNaNPattern, IsZeroPattern]
  grind

end Number

/-! ## One value -/

namespace Cell

/-- Two cells that are the same value: of one type, and with equal values in it. A NaN
equals no float in the comparison of floats, and every NaN here. -/
inductive Same : Cell → Cell → Prop where
  | int (v : Int64) : Same (.int v) (.int v)
  | bool (v : Bool) : Same (.bool v) (.bool v)
  | str (v : String) : Same (.str v) (.str v)
  | number {x y : Float} (h : (x == y) = true) : Same (.float x) (.float y)
  | nan {x y : Float} (hx : x.isNaN = true) (hy : y.isNaN = true) : Same (.float x) (.float y)

theorem order_nan {x : Float} (hx : x.isNaN = true) (y : Float) :
    order (.float x) (.float y) = if y.isNaN then .eq else .gt := by
  rw [order, Number.order, hx]
  cases y.isNaN <;> rfl

theorem same_float_iff {x y : Float} : Same (.float x) (.float y) ↔ Number.order x y = .eq := by
  constructor
  · intro h
    cases h with
    | number h =>
        exact Number.canonicalBits_eq_iff.mp (Number.canonicalBits_of_beq h)
    | nan hx hy => rw [Number.order, hx, hy]
  · intro h
    cases hx : x.isNaN with
    | true =>
        cases hy : y.isNaN with
        | true => exact .nan hx hy
        | false =>
            rw [Number.order, hx, hy] at h
            cases h
    | false =>
        cases hy : y.isNaN with
        | true =>
            rw [Number.order, hx, hy] at h
            cases h
        | false => exact .number ((Number.order_eq_iff_beq hx hy).mp h)

/-- The order holds cells equal exactly if they are the same value. -/
theorem order_eq_iff_same {a b : Cell} : order a b = .eq ↔ a.Same b := by
  cases a with
  | int x =>
      cases b with
      | int y =>
          rw [order, Std.compare_eq_iff_eq]
          exact ⟨fun h => h ▸ .int x, fun h => by cases h; rfl⟩
      | float y | bool y | str y => exact iff_of_false (by rintro ⟨⟩) (by rintro ⟨⟩)
  | float x =>
      cases b with
      | float y => exact same_float_iff.symm
      | int y | bool y | str y => exact iff_of_false (by rintro ⟨⟩) (by rintro ⟨⟩)
  | bool x =>
      cases b with
      | bool y =>
          rw [order, Std.compare_eq_iff_eq]
          exact ⟨fun h => h ▸ .bool x, fun h => by cases h; rfl⟩
      | int y | float y | str y => exact iff_of_false (by rintro ⟨⟩) (by rintro ⟨⟩)
  | str x =>
      cases b with
      | str y =>
          rw [order, Std.compare_eq_iff_eq]
          exact ⟨fun h => h ▸ .str x, fun h => by cases h; rfl⟩
      | int y | float y | bool y => exact iff_of_false (by rintro ⟨⟩) (by rintro ⟨⟩)

theorem orderKeys_eq_iff_same {as bs : List Cell} :
    orderKeys as bs = .eq ↔ List.Forall₂ Same as bs := by
  induction as generalizing bs with
  | nil =>
      cases bs with
      | nil => exact iff_of_true rfl .nil
      | cons b bs => exact iff_of_false (by rintro ⟨⟩) (by rintro ⟨⟩)
  | cons a as ih =>
      cases bs with
      | nil => exact iff_of_false (by rintro ⟨⟩) (by rintro ⟨⟩)
      | cons b bs =>
          rw [orderKeys, Ordering.then_eq_eq, order_eq_iff_same, ih, List.forall₂_cons]

/-- Cells and tuples of them are lawful keys. Their order is total, turns around with its
arguments and is transitive; it holds equal exactly what is the same value; and exactly
such cells have one fingerprint. Every NaN is one value and greater than every number,
and of two different bit patterns for floats only zeros and NaNs are equal. -/
theorem order_lawful :
    (LawfulOrder order ∧ (∀ a b, order a b = .eq ↔ a.Same b) ∧
      (∀ a b, a.fingerprint = b.fingerprint ↔ order a b = .eq)) ∧
    (∀ x y : Float, x.isNaN = true →
      order (.float x) (.float y) = if y.isNaN then .eq else .gt) ∧
    (∀ p q : UInt64, order (.float (.ofBits p)) (.float (.ofBits q)) = .eq ↔
      p = q ∨ Number.IsZeroPattern p ∧ Number.IsZeroPattern q ∨
        Number.IsNaNPattern p ∧ Number.IsNaNPattern q) ∧
    LawfulOrder orderKeys ∧ (∀ as bs, orderKeys as bs = .eq ↔ List.Forall₂ Same as bs) ∧
      ∀ as bs, as.map fingerprint = bs.map fingerprint ↔ orderKeys as bs = .eq := by
  refine ⟨⟨.of_transCmp order, fun _ _ => order_eq_iff_same, fun _ _ => fingerprint_eq_iff⟩,
    ?_, ?_, .of_transCmp orderKeys, ?_, ?_⟩
  · intro x y hx
    exact order_nan hx y
  · intro p q
    exact Number.order_ofBits
  · intro as bs
    exact orderKeys_eq_iff_same
  · intro as bs
    rw [fingerprints_eq_iff, sameKey_iff]

/-- Two NaNs, of which one has a sign and another mantissa. -/
example : (float (.ofBits 0x7ff8000000000000)).fingerprint =
    (float (.ofBits 0xfff0000000000001)).fingerprint := by decide +kernel

end Cell

end TableVerbs
