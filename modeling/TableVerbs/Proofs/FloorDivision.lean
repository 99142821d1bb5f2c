import Mathlib.Data.Rat.Floor
import TableVerbs.Proofs.ExactArithmetic

/-!
# Floor division and its remainder

The machine truncates, and quotient and remainder are corrected apart from each
other, the one by 1 and the other by the divisor, each after a test of its own.
They still belong together: quotient times divisor plus remainder is the dividend,
and the remainder lies between zero and the divisor. Divided by the divisor it is
then a part of 1, which is why the quotient is the floor of the fraction.

Nothing on the way leaves the 64-bit integers. `floorDiv?` and `floorMod?` take the
same steps over all integers and narrow after each of them, and they come to what
the machine comes to. The least integer divided by -1 is set apart, since there the
first step does not fit, and it is the only place where a step does not.
-/

namespace TableVerbs

namespace Number

/-! ## Over all integers -/

/-- The quotient and the remainder of a division that rounds to the floor. -/
structure Floored (a b q r : Int) : Prop where
  floor : q = ⌊(a : ℚ) / b⌋
  sign : r = 0 ∨ r.sign = b.sign
  small : |r| < |b|
  whole : q * b + r = a

/-- The remainder is on the side of the divisor, and nearer to zero. -/
theorem fmod_bounds (a : Int) {b : Int} (hb : b ≠ 0) :
    (0 < b ∧ 0 ≤ a.fmod b ∧ a.fmod b < b) ∨ (b < 0 ∧ b < a.fmod b ∧ a.fmod b ≤ 0) := by
  rcases Int.lt_or_gt_of_ne hb with hneg | hpos
  · have hlow := Int.fmod_nonneg_of_pos (-a) (Int.neg_pos_of_neg hneg)
    have hhigh := Int.fmod_lt_of_pos (-a) (Int.neg_pos_of_neg hneg)
    rw [Int.neg_fmod_neg] at hlow hhigh
    exact .inr ⟨hneg, by omega, by omega⟩
  · exact .inl ⟨hpos, Int.fmod_nonneg_of_pos a hpos, Int.fmod_lt_of_pos a hpos⟩

theorem sign_fmod (a : Int) {b : Int} (hb : b ≠ 0) :
    a.fmod b = 0 ∨ (a.fmod b).sign = b.sign := by
  by_cases hzero : a.fmod b = 0
  · exact .inl hzero
  rcases fmod_bounds a hb with ⟨hpos, hlow, _⟩ | ⟨hneg, _, hhigh⟩
  · exact .inr (by rw [Int.sign_eq_one_of_pos hpos, Int.sign_eq_one_of_pos (by omega)])
  · exact .inr (by rw [Int.sign_eq_neg_one_of_neg hneg, Int.sign_eq_neg_one_of_neg (by omega)])

theorem abs_fmod_lt (a : Int) {b : Int} (hb : b ≠ 0) : |a.fmod b| < |b| := by
  have hbounds := fmod_bounds a hb
  rw [Int.abs_eq_natAbs, Int.abs_eq_natAbs]
  omega

/-- The fraction is the quotient and a part of 1. -/
theorem fdiv_eq_floor (a : Int) {b : Int} (hb : b ≠ 0) : a.fdiv b = ⌊(a : ℚ) / b⌋ := by
  have hbq : (b : ℚ) ≠ 0 := Int.cast_ne_zero.mpr hb
  have hwhole : (a.fdiv b : ℚ) * b + a.fmod b = a := by
    rw [← Int.cast_mul, ← Int.cast_add, Int.fdiv_mul_add_fmod]
  have hfraction : (a : ℚ) / b = a.fdiv b + (a.fmod b : ℚ) / b := by
    rw [← hwhole, add_div, mul_div_cancel_right₀ _ hbq]
  have hpart : 0 ≤ (a.fmod b : ℚ) / b ∧ (a.fmod b : ℚ) / b < 1 := by
    rcases fmod_bounds a hb with ⟨hpos, hlow, hhigh⟩ | ⟨hneg, hlow, hhigh⟩
    · have hposq : (0 : ℚ) < b := Int.cast_pos.mpr hpos
      exact ⟨div_nonneg (Int.cast_nonneg hlow) hposq.le,
        (div_lt_one hposq).mpr (Int.cast_lt.mpr hhigh)⟩
    · have hnegq : (b : ℚ) < 0 := Int.cast_lt_zero.mpr hneg
      exact ⟨div_nonneg_of_nonpos (Int.cast_nonpos.mpr hhigh) hnegq.le,
        (div_lt_one_of_neg hnegq).mpr (Int.cast_lt.mpr hlow)⟩
  rw [eq_comm, Int.floor_eq_iff, hfraction]
  exact ⟨le_add_of_nonneg_right hpart.1, by linarith only [hpart.2]⟩

theorem floored_fdiv (a : Int) {b : Int} (hb : b ≠ 0) : Floored a b (a.fdiv b) (a.fmod b) where
  floor := fdiv_eq_floor a hb
  sign := sign_fmod a hb
  small := abs_fmod_lt a hb
  whole := Int.fdiv_mul_add_fmod a b

/-! ## Step by step -/

/-- The truncated quotient, if it fits. -/
def quotient? (a b : Int64) : Option Int64 := narrow? (a.toInt.tdiv b.toInt)

/-- The truncated remainder, if it fits. -/
def remainder? (a b : Int64) : Option Int64 := narrow? (a.toInt.tmod b.toInt)

/-- The steps of `floorDiv`, as long as they fit. -/
def floorDiv? (a b : Int64) : Option Int64 :=
  (quotient? a b).bind fun q =>
    (remainder? a b).bind fun r =>
      if r != 0 && (decide (a < 0) != decide (b < 0)) then sub? q 1 else some q

/-- The steps of `floorMod`, as long as they fit. -/
def floorMod? (a b : Int64) : Option Int64 :=
  (remainder? a b).bind fun r =>
    if r != 0 && (decide (r < 0) != decide (b < 0)) then add? r b else some r

variable {a b : Int64}

theorem quotient?_eq (h : ¬(a.toInt = -2 ^ 63 ∧ b.toInt = -1)) : quotient? a b = some (a / b) :=
  narrow?_eq_some.mpr (toInt_div h).symm

theorem remainder?_eq (a b : Int64) : remainder? a b = some (a % b) :=
  narrow?_eq_some.mpr (Int64.toInt_mod a b).symm

theorem floorDiv?_eq (hb : b ≠ 0) (h : ¬(a.toInt = -2 ^ 63 ∧ b.toInt = -1)) :
    floorDiv? a b = some (floorDiv a b) := by
  rw [floorDiv?, quotient?_eq h, remainder?_eq, Option.bind_some, Option.bind_some, floorDiv]
  -- with the remainder of the machine in it, the test is that of `roundsUp`
  show (if roundsUp a b = true then sub? (a / b) 1 else some (a / b)) = _
  by_cases hround : roundsUp a b = true
  · rw [if_pos hround, if_pos hround]
    refine narrow?_eq_some.mpr ?_
    rw [toInt_div_sub_one hb hround, toInt_div h, Int64.toInt_one]
  · rw [if_neg hround, if_neg hround]

theorem floorMod?_eq (a b : Int64) : floorMod? a b = some (floorMod a b) := by
  rw [floorMod?, remainder?_eq, Option.bind_some, floorMod]
  by_cases hround : (a % b != 0 && (decide (a % b < 0) != decide (b < 0))) = true
  · rw [if_pos hround, if_pos hround]
    refine narrow?_eq_some.mpr ?_
    rw [toInt_mod_add hround, Int64.toInt_mod]
  · rw [if_neg hround, if_neg hround]

/-- The operands that are set apart are those without a quotient that fits, and no others. -/
theorem floorDiv?_eq_none (hb : b ≠ 0) :
    floorDiv? a b = none ↔ a.toInt = -2 ^ 63 ∧ b.toInt = -1 := by
  constructor
  · intro hnone
    by_contra h
    rw [floorDiv?_eq hb h] at hnone
    cases hnone
  · rintro ⟨ha, hb⟩
    have hquotient : quotient? a b = none := by
      rw [quotient?, narrow?_eq_none, ha, hb]
      exact fun hrange => absurd hrange.2 (by decide)
    rw [floorDiv?, hquotient]
    rfl

end Number

/-- Floor division and its remainder fit together. For a divisor that is not zero, and
operands that are not the least integer and -1, both operators answer. The answers are
the floor of the fraction and a remainder that is zero or has the sign of the divisor,
is smaller than it and makes up the dividend with the quotient; and every step towards
them fits. The least integer and -1 are set apart because there, and nowhere else, a
step does not. Zero divides nothing, and both operators say so. -/
theorem Arithmetic.floorDiv_mod (a b : Int64) :
    (b ≠ 0 → ¬(a.toInt = -2 ^ 63 ∧ b.toInt = -1) → ∃ q r : Int64,
      BinaryOp.apply (.arithmetic .floorDiv) (.int a) (.int b) = .ok (.int q) ∧
      BinaryOp.apply (.arithmetic .mod) (.int a) (.int b) = .ok (.int r) ∧
      Number.Floored a.toInt b.toInt q.toInt r.toInt ∧
      Number.floorDiv? a b = some q ∧ Number.floorMod? a b = some r) ∧
    (b ≠ 0 → (Number.floorDiv? a b = none ↔ a.toInt = -2 ^ 63 ∧ b.toInt = -1)) ∧
    (b = 0 →
      BinaryOp.apply (.arithmetic .floorDiv) (.int a) (.int b) = .error .divisionByZero ∧
      BinaryOp.apply (.arithmetic .mod) (.int a) (.int b) = .error .moduloByZero) := by
  have hdiv : BinaryOp.apply (.arithmetic .floorDiv) (.int a) (.int b) =
      if b = 0 then .error .divisionByZero else .ok (.int (Number.floorDiv a b)) := rfl
  have hmod : BinaryOp.apply (.arithmetic .mod) (.int a) (.int b) =
      if b = 0 then .error .moduloByZero else .ok (.int (Number.floorMod a b)) := rfl
  refine ⟨?_, Number.floorDiv?_eq_none, ?_⟩
  · intro hb hwraps
    have hfloored := Number.floored_fdiv a.toInt (mt Number.toInt_eq_zero.mp hb)
    rw [← Number.toInt_floorDiv hb hwraps, ← Number.toInt_floorMod] at hfloored
    exact ⟨_, _, hdiv.trans (if_neg hb), hmod.trans (if_neg hb), hfloored,
      Number.floorDiv?_eq hb hwraps, Number.floorMod?_eq a b⟩
  · intro hb
    exact ⟨hdiv.trans (if_pos hb), hmod.trans (if_pos hb)⟩

/-- The least integer by 3, where both are corrected: the quotient is one below the
truncated one and still fits. By -1 it does not. -/
theorem Arithmetic.floorDiv_mod_least :
    Number.Floored (-9223372036854775808) 3 (-3074457345618258603) 1 ∧
      BinaryOp.apply (.arithmetic .floorDiv) (.int (-9223372036854775808)) (.int 3) =
        .ok (.int (-3074457345618258603)) ∧
      BinaryOp.apply (.arithmetic .mod) (.int (-9223372036854775808)) (.int 3) = .ok (.int 1) ∧
      Number.floorDiv? (-9223372036854775808) (-1) = none ∧
      BinaryOp.apply (.arithmetic .mod) (.int 7) (.int 0) = .error .moduloByZero := by
  obtain ⟨q, r, hq, hr, hfloored, _, _⟩ :=
    (Arithmetic.floorDiv_mod (-9223372036854775808) 3).1 (by decide) (by decide)
  have hqvalue : BinaryOp.apply (.arithmetic .floorDiv) (.int (-9223372036854775808)) (.int 3) =
      .ok (.int (-3074457345618258603)) := rfl
  have hrvalue : BinaryOp.apply (.arithmetic .mod) (.int (-9223372036854775808)) (.int 3) =
      .ok (.int 1) := rfl
  cases hq.symm.trans hqvalue
  cases hr.symm.trans hrvalue
  have hnone := ((Arithmetic.floorDiv_mod (-9223372036854775808) (-1)).2.1 (by decide)).mpr
    (by decide)
  exact ⟨hfloored, hqvalue, hrvalue, hnone, ((Arithmetic.floorDiv_mod 7 0).2.2 rfl).2⟩

end TableVerbs
