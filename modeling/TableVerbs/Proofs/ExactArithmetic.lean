import Mathlib.Data.Int.Order.Basic
import Mathlib.Algebra.Order.Ring.Int
import Mathlib.Tactic.SplitIfs
import TableVerbs.Expr.Function

/-!
# Machine integers against all integers

The operators on integers are meant to give the result that they have over all
integers, or none. `Arithmetic.value?` is that result, with floor division and
its remainder, and this file compares the two operator by operator.

Three places are set apart. The least integer divided by -1 is one more than the
greatest, and so is its magnitude, but the division and the magnitude give the
least integer back instead of failing; all other operators notice. And an
exponent that does not fit into 32 bits is refused before the base is looked at,
though the powers of 0, 1 and -1 fit whatever the exponent.
-/

namespace TableVerbs

namespace Number

/-- The integers that are 64-bit ones. -/
def InRange (n : Int) : Prop := -2 ^ 63 ≤ n ∧ n < 2 ^ 63

theorem inRange_toInt (a : Int64) : InRange a.toInt := ⟨a.le_toInt, a.toInt_lt⟩

theorem narrow?_eq_some {n : Int} {m : Int64} : narrow? n = some m ↔ n = m.toInt := by
  have hpow : Int.pow 2 63 = 2 ^ 63 := rfl
  rw [narrow?, hpow]
  constructor
  · intro h
    split at h
    · next hn =>
        cases h
        exact (Int64.toInt_ofInt_of_le hn.1 hn.2).symm
    · cases h
  · intro h
    have hm := inRange_toInt m
    rw [if_pos (h ▸ hm), h, Int64.ofInt_toInt]

theorem narrow?_eq_none {n : Int} : narrow? n = none ↔ ¬InRange n := by
  have hpow : Int.pow 2 63 = 2 ^ 63 := rfl
  rw [narrow?, hpow, InRange]
  exact ite_eq_right_iff.trans (by simp only [reduceCtorEq, imp_false])

theorem toInt_eq_zero {a : Int64} : a.toInt = 0 ↔ a = 0 := by
  rw [← Int64.toInt_zero, Int64.toInt_inj]

theorem toInt_lt_zero {a : Int64} : a.toInt < 0 ↔ a < 0 := by
  rw [Int64.lt_iff_toInt_lt, Int64.toInt_zero]

theorem bmod_eq_self {n : Int} (h : InRange n) : n.bmod (2 ^ 64) = n := by
  obtain ⟨hlow, hhigh⟩ := h
  exact Int.bmod_eq_of_le (by omega) (by omega)

/-! ## Floor division

The machine truncates. The quotient is corrected by 1 and the remainder by the
divisor, on the same operands, and the corrected ones are those of the floor. -/

theorem sign_tmod (a b : Int) : (0 ≤ a → 0 ≤ a.tmod b) ∧ (a ≤ 0 → a.tmod b ≤ 0) := by
  refine ⟨Int.tmod_nonneg b, fun h => ?_⟩
  have hneg := Int.tmod_nonneg b (a := -a) (by omega)
  rw [Int.neg_tmod] at hneg
  omega

theorem fdiv_eq_ite {a b : Int} (hb : b ≠ 0) :
    a.fdiv b = if a.tmod b ≠ 0 ∧ ¬(a < 0 ↔ b < 0) then a.tdiv b - 1 else a.tdiv b := by
  have hdvd : b ∣ a ↔ a.tmod b = 0 := Int.dvd_iff_tmod_eq_zero
  have hneg : b < 0 → b.sign = -1 := Int.sign_eq_neg_one_of_neg
  have hpos : 0 < b → b.sign = 1 := Int.sign_eq_one_of_pos
  rw [Int.fdiv_eq_tdiv]
  by_cases hz : a.tmod b = 0
  · rw [if_pos (hdvd.mpr hz), if_neg (fun h => h.1 hz), Int.sub_zero]
  · rw [if_neg (mt hdvd.mp hz)]
    split_ifs <;> omega

theorem fmod_eq_ite (a b : Int) :
    a.fmod b = if a.tmod b ≠ 0 ∧ ¬(a.tmod b < 0 ↔ b < 0) then a.tmod b + b else a.tmod b := by
  have hdvd : b ∣ a ↔ a.tmod b = 0 := Int.dvd_iff_tmod_eq_zero
  obtain ⟨hpos, hneg⟩ := sign_tmod a b
  rw [Int.fmod_eq_tmod]
  by_cases hz : a.tmod b = 0
  · rw [if_pos (hdvd.mpr hz), if_neg (fun h => h.1 hz), Int.add_zero]
  · rw [if_neg (mt hdvd.mp hz)]
    split_ifs <;> omega

theorem tmod_of_unit {a b : Int} (h : b.natAbs = 1) : a.tmod b = 0 := by
  rcases Int.natAbs_eq b with hb | hb
  · rw [hb, h]
    exact Int.tmod_one a
  · rw [hb, h, Int.tmod_neg]
    exact Int.tmod_one a

/-- A quotient that has to be corrected is not the least one. -/
theorem natAbs_tdiv_lt {a b : Int} (hb : b ≠ 0) (h : a.tmod b ≠ 0) :
    (a.tdiv b).natAbs < a.natAbs := by
  have hone : b.natAbs ≠ 1 := fun hb => h (tmod_of_unit hb)
  have ha : a ≠ 0 := fun ha => h (by rw [ha, Int.zero_tmod])
  rw [Int.natAbs_tdiv]
  exact Nat.div_lt_self (by omega) (by omega)

/-! The steps of the machine, one by one, and the tests between them. -/

theorem toInt_div {a b : Int64} (h : ¬(a.toInt = -2 ^ 63 ∧ b.toInt = -1)) :
    (a / b).toInt = a.toInt.tdiv b.toInt := by
  by_cases hmin : a = Int64.minValue
  · have hne : b ≠ -1 := by
      rintro rfl
      exact h ⟨by rw [hmin]; rfl, rfl⟩
    exact Int64.toInt_div_of_ne_right a b hne
  · exact Int64.toInt_div_of_ne_left a b hmin

theorem roundsUp_iff {a b : Int64} : roundsUp a b = true ↔
    a.toInt.tmod b.toInt ≠ 0 ∧ ¬(a.toInt < 0 ↔ b.toInt < 0) := by
  rw [roundsUp, Bool.and_eq_true, bne_iff_ne, bne_iff_ne, ne_eq, ne_eq, decide_eq_decide,
    ← toInt_eq_zero, Int64.toInt_mod, toInt_lt_zero, toInt_lt_zero]

theorem remainder_corrected_iff {a b : Int64} :
    (a % b != 0 && (decide (a % b < 0) != decide (b < 0))) = true ↔
      a.toInt.tmod b.toInt ≠ 0 ∧ ¬(a.toInt.tmod b.toInt < 0 ↔ b.toInt < 0) := by
  rw [Bool.and_eq_true, bne_iff_ne, bne_iff_ne, ne_eq, ne_eq, decide_eq_decide,
    ← toInt_eq_zero, ← toInt_lt_zero, ← toInt_lt_zero, Int64.toInt_mod]

/-- A quotient that is corrected has room for it. -/
theorem toInt_div_sub_one {a b : Int64} (hb : b ≠ 0) (h : roundsUp a b = true) :
    (a / b - 1).toInt = a.toInt.tdiv b.toInt - 1 := by
  have hrem := (roundsUp_iff.mp h).1
  have hlt := natAbs_tdiv_lt (mt toInt_eq_zero.mp hb) hrem
  -- division by -1 leaves no remainder, so nothing wraps where one is left
  have hwraps : ¬(a.toInt = -2 ^ 63 ∧ b.toInt = -1) := fun hmin =>
    hrem (tmod_of_unit (by rw [hmin.2]; rfl))
  have ha := inRange_toInt a
  rw [Int64.toInt_sub, toInt_div hwraps, Int64.toInt_one]
  refine bmod_eq_self ?_
  unfold InRange at ha ⊢
  omega

/-- Remainder and divisor have opposite signs where they are added, so the sum lies
between them. -/
theorem toInt_mod_add {a b : Int64}
    (h : (a % b != 0 && (decide (a % b < 0) != decide (b < 0))) = true) :
    (a % b + b).toInt = a.toInt.tmod b.toInt + b.toInt := by
  have hsigns := (remainder_corrected_iff.mp h).2
  have hmod := inRange_toInt (a % b)
  have hrange := inRange_toInt b
  rw [Int64.toInt_mod] at hmod
  rw [Int64.toInt_add, Int64.toInt_mod]
  refine bmod_eq_self ?_
  unfold InRange at hmod hrange ⊢
  omega

theorem toInt_floorDiv {a b : Int64} (hb : b ≠ 0) (h : ¬(a.toInt = -2 ^ 63 ∧ b.toInt = -1)) :
    (floorDiv a b).toInt = a.toInt.fdiv b.toInt := by
  rw [fdiv_eq_ite (mt toInt_eq_zero.mp hb), floorDiv]
  by_cases hround : roundsUp a b = true
  · rw [if_pos hround, if_pos (roundsUp_iff.mp hround), toInt_div_sub_one hb hround]
  · rw [if_neg hround, if_neg (mt roundsUp_iff.mpr hround), toInt_div h]

theorem toInt_floorMod (a b : Int64) : (floorMod a b).toInt = a.toInt.fmod b.toInt := by
  rw [fmod_eq_ite, floorMod]
  by_cases hround : (a % b != 0 && (decide (a % b < 0) != decide (b < 0))) = true
  · rw [if_pos hround, if_pos (remainder_corrected_iff.mp hround), toInt_mod_add hround]
  · rw [if_neg hround, if_neg (mt remainder_corrected_iff.mpr hround), Int64.toInt_mod]

/-! ## Powers -/

theorem pow_not_inRange {a : Int} {n : Nat} (ha : 2 ≤ a.natAbs) (hn : 64 ≤ n) :
    ¬InRange (a ^ n) := by
  have hlarge : 2 ^ 64 ≤ (a ^ n).natAbs := by
    rw [Int.natAbs_pow]
    calc 2 ^ 64 ≤ 2 ^ n := Nat.pow_le_pow_right (by omega) hn
      _ ≤ a.natAbs ^ n := Nat.pow_le_pow_left ha n
  unfold InRange
  omega

theorem neg_one_pow (n : Nat) : (-1 : Int) ^ n = if n % 2 = 0 then 1 else -1 := by
  split
  · next h => exact Even.neg_one_pow (Nat.even_iff.mpr h)
  · next h => exact Odd.neg_one_pow (Nat.odd_iff.mpr (by omega))

/-- A power is found exactly if it fits. -/
theorem pow?_eq_some {a m : Int64} {n : Nat} : pow? a n = some m ↔ a.toInt ^ n = m.toInt := by
  rw [pow?]
  split
  · next h =>
      rw [Option.some.injEq, ← Int64.toInt_inj, apply_ite Int64.toInt]
      rcases h with rfl | rfl
      · rw [Int64.toInt_zero, Int64.toInt_one, zero_pow_eq]
      · rw [Int64.toInt_one, one_pow, ite_self]
  split
  · next h =>
      rw [Option.some.injEq, ← Int64.toInt_inj, apply_ite Int64.toInt, h]
      have hneg : Int64.toInt (-1) = -1 := rfl
      rw [hneg, Int64.toInt_one, neg_one_pow]
  · next hunit hneg =>
      have ha : 2 ≤ a.toInt.natAbs := by
        have h0 : a.toInt ≠ 0 := fun h => hunit (.inl (toInt_eq_zero.mp h))
        have h1 : a.toInt ≠ 1 := fun h => hunit (.inr (Int64.toInt_inj.mp h))
        have h2 : a.toInt ≠ -1 := fun h => hneg (Int64.toInt_inj.mp h)
        omega
      split
      · next hn =>
          refine iff_of_false (fun h => by cases h) fun h => ?_
          exact pow_not_inRange ha hn (h ▸ inRange_toInt m)
      · exact narrow?_eq_some

/-! ## Magnitudes -/

theorem toInt_abs {a : Int64} (h : a.toInt ≠ -2 ^ 63) : a.abs.toInt = |a.toInt| := by
  have ha := inRange_toInt a
  have habs : a.abs.toBitVec = if a < 0 then (-a).toBitVec else a.toBitVec := by
    rw [Int64.toBitVec_abs, BitVec.abs_eq, BitVec.msb_eq_toInt, Int64.toInt_toBitVec,
      Int64.toBitVec_neg]
    simp only [decide_eq_true_eq, toInt_lt_zero]
  rw [← Int64.toInt_toBitVec, habs, apply_ite BitVec.toInt, Int64.toInt_toBitVec,
    Int64.toInt_toBitVec, Int64.toInt_neg]
  unfold InRange at ha
  split
  · next hneg =>
      rw [abs_of_neg (toInt_lt_zero.mpr hneg)]
      refine bmod_eq_self ?_
      unfold InRange
      omega
  · next hneg =>
      have hpos := mt toInt_lt_zero.mp hneg
      rw [abs_of_nonneg (by omega)]

end Number

namespace Arithmetic

/-! ## Operators -/

/-- The result of an operator over all integers. Plain division and negative
powers leave the integers, and zero divides nothing. -/
def value? : Arithmetic → Int → Int → Option Int
  | .add, a, b => some (a + b)
  | .sub, a, b => some (a - b)
  | .mul, a, b => some (a * b)
  | .div, _, _ => none
  | .floorDiv, a, b => if b = 0 then none else some (a.fdiv b)
  | .mod, a, b => if b = 0 then none else some (a.fmod b)
  | .pow, a, b => if b < 0 then none else some (a ^ b.toNat)

/-- Where an operator gives a result that is not its own. -/
def Wraps (op : Arithmetic) (a b : Int) : Prop := op = .floorDiv ∧ a = -2 ^ 63 ∧ b = -1

/-- Where an operator refuses operands of which it has a result. -/
def Refuses (op : Arithmetic) (a b : Int) : Prop :=
  op = .pow ∧ (a = 0 ∨ a = 1 ∨ a = -1) ∧ 2 ^ 32 ≤ b

/-- What an operator on integers may come to: its exact result, or a failure
where that result does not fit or is not there or where it is refused. -/
def Answers (op : Arithmetic) (a b : Int) (answer : Except Error Cell) : Prop :=
  (∃ n : Int64, answer = .ok (.int n) ∧ op.value? a b = some n.toInt) ∨
    ∃ e, answer = .error e ∧
      ((∀ n, op.value? a b = some n → ¬Number.InRange n) ∨ op.Refuses a b)

variable {op : Arithmetic}

theorem Answers.of_ok {a b : Int} {answer : Except Error Cell} (h : op.Answers a b answer)
    {v : Cell} (hv : answer = .ok v) : ∃ n : Int64, v = .int n ∧ op.value? a b = some n.toInt := by
  subst hv
  rcases h with ⟨n, hn, hvalue⟩ | ⟨e, he, _⟩
  · cases hn
    exact ⟨n, rfl, hvalue⟩
  · cases he

theorem Answers.of_error {a b : Int} {answer : Except Error Cell} (h : op.Answers a b answer)
    {e : Error} (he : answer = .error e) :
    (∀ n, op.value? a b = some n → ¬Number.InRange n) ∨ op.Refuses a b := by
  subst he
  rcases h with ⟨n, hn, _⟩ | ⟨_, _, hreason⟩
  · cases hn
  · exact hreason

/-- A narrowed result is an answer if it is the exact one, narrowed. -/
theorem answers_exactly {a b n : Int} {n? : Option Int64} (hexact : op.value? a b = some n)
    (h : ∀ m, n? = some m ↔ n = m.toInt) : op.Answers a b (exactly n?) := by
  cases n? with
  | some m => exact .inl ⟨m, rfl, by rw [hexact, (h m).mp rfl]⟩
  | none =>
      refine .inr ⟨.overflow, rfl, .inl fun n' hn' hrange => ?_⟩
      have hn : n = n' := Option.some.inj (hexact.symm.trans hn')
      subst hn
      have hm := (h (Int64.ofInt n)).mpr (Int64.toInt_ofInt_of_le hrange.1 hrange.2).symm
      cases hm

theorem answers_none {a b : Int} {e : Error} (h : op.value? a b = none) :
    op.Answers a b (.error e) := by
  refine .inr ⟨e, rfl, .inl fun n hn => ?_⟩
  rw [h] at hn
  cases hn

/-- Every operator on integers answers, except where it wraps. -/
theorem answers_onInts {a b : Int64} (hdiv : op ≠ .div) (hpow : op = .pow → 0 ≤ b.toInt)
    (hwraps : ¬op.Wraps a.toInt b.toInt) : op.Answers a.toInt b.toInt (op.onInts a b) := by
  cases op with
  | div => exact absurd rfl hdiv
  | add | sub | mul => exact answers_exactly rfl fun m => Number.narrow?_eq_some
  | floorDiv =>
      simp only [onInts]
      split
      · next hb => exact answers_none (if_pos (Number.toInt_eq_zero.mpr hb))
      · next hb =>
          refine .inl ⟨_, rfl, ?_⟩
          rw [Number.toInt_floorDiv hb fun h => hwraps ⟨rfl, h⟩]
          exact if_neg (mt Number.toInt_eq_zero.mp hb)
  | mod =>
      simp only [onInts]
      split
      · next hb => exact answers_none (if_pos (Number.toInt_eq_zero.mpr hb))
      · next hb =>
          refine .inl ⟨_, rfl, ?_⟩
          rw [Number.toInt_floorMod]
          exact if_neg (mt Number.toInt_eq_zero.mp hb)
  | pow =>
      have hb : ¬b.toInt < 0 := by have := hpow rfl; omega
      have hexact : value? .pow a.toInt b.toInt = some (a.toInt ^ b.toInt.toNat) := if_neg hb
      have hmax : maxExponent = 4294967295 := rfl
      simp only [onInts, if_neg (mt Number.toInt_lt_zero.mpr hb)]
      split
      · next hlarge =>
          refine .inr ⟨_, rfl, ?_⟩
          by_cases ha : a.toInt = 0 ∨ a.toInt = 1 ∨ a.toInt = -1
          · exact .inr ⟨rfl, ha, by omega⟩
          · refine .inl fun n hn => ?_
            rw [← Option.some.inj (hexact.symm.trans hn)]
            exact Number.pow_not_inRange (by omega) (by omega)
      · exact answers_exactly hexact fun m => Number.pow?_eq_some

end Arithmetic

end TableVerbs
