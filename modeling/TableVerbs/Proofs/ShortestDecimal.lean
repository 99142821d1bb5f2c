import Mathlib
import TableVerbs.Decimal.Shortest

/-!
# The shortest decimal lies near the float

A float is a significand times a power of two, and the decimal that is written for it
lies within half of its last place. Whole numbers come out of this: where the last
place is a fraction of one, a whole decimal that near to the float is the float itself.
The other way around a whole number is on the grid of whole numbers, so the search,
which goes from coarse grids to fine ones, ends there at the latest.
-/

namespace TableVerbs.Decimal

/-- The size of a finite float. -/
def Binary.magnitude (b : Binary) : ℚ := b.significand * 2 ^ b.exponent

/-- The number that a decimal stands for. -/
def Digits.value (d : Digits) : ℚ := d.digits * 10 ^ d.scale

/-- A power with an integer exponent, in terms of natural ones. -/
theorem zpow_mul_toNat {r : ℚ} (hr : r ≠ 0) (z : ℤ) : r ^ z * r ^ (-z).toNat = r ^ z.toNat := by
  rw [← zpow_natCast, ← zpow_natCast, ← zpow_add₀ hr]
  congr 1
  omega

theorem zpow_half (e : ℤ) : (2 : ℚ) ^ (e - 1) = 2 ^ e / 2 := by
  rw [zpow_sub₀ two_ne_zero, zpow_one]

theorem zpow_quarter (e : ℤ) : (2 : ℚ) ^ (e - 2) = 2 ^ e / 4 := by
  rw [zpow_sub₀ two_ne_zero]
  norm_num

section

variable (q scale : ℤ)

/-- What the two sides of a comparison on a grid have in common. -/
def common : ℚ := 10 ^ (-scale).toNat * 2 ^ (-q).toNat

theorem common_pos : 0 < common q scale := by
  rw [common]
  positivity

theorem cast_inUnits (a : ℕ) :
    ((a * (Nat.pow 2 q.toNat * Nat.pow 10 (-scale).toNat) : ℕ) : ℚ) =
      a * 2 ^ q * common q scale := by
  have htwo := zpow_mul_toNat (show (2 : ℚ) ≠ 0 by norm_num) q
  rw [common]
  push_cast [Nat.pow_eq]
  rw [← htwo]
  ring

theorem cast_onGrid (a : ℕ) :
    ((a * (Nat.pow 10 scale.toNat * Nat.pow 2 (-q).toNat) : ℕ) : ℚ) =
      a * 10 ^ scale * common q scale := by
  have hten := zpow_mul_toNat (show (10 : ℚ) ≠ 0 by norm_num) scale
  rw [common]
  push_cast [Nat.pow_eq]
  rw [← hten]
  ring

end

/-! ## Grids -/

theorem Span.bounds_of_holds {s : Span} {point : ℕ} (h : s.holds point = true) :
    s.low ≤ point ∧ point ≤ s.high := by
  rw [Span.holds] at h
  split at h
  next => simpa using h
  next =>
    simp only [Bool.and_eq_true, decide_eq_true_eq] at h
    omega

theorem Binary.le_low_span (b : Binary) : 4 * b.significand ≤ b.span.low + 2 := by
  rw [Binary.span]
  dsimp only
  split <;> omega

/-- A point of a grid that is taken for a float. -/
theorem Binary.holds_of_onGrid? {b : Binary} {scale : ℤ} {d : Digits}
    (h : b.onGrid? scale = some d) :
    d.scale = scale ∧ (b.span.scale
      (Nat.pow 2 (b.exponent - 2).toNat * Nat.pow 10 (-scale).toNat)).holds
        (d.digits * (Nat.pow 10 scale.toNat * Nat.pow 2 (-(b.exponent - 2)).toNat)) = true := by
  simp only [Binary.onGrid?] at h
  split at h
  next hbelow habove =>
    cases h
    split
    next => exact ⟨rfl, hbelow⟩
    next => exact ⟨rfl, habove⟩
  next hbelow _ =>
    cases h
    exact ⟨rfl, hbelow⟩
  next _ habove =>
    cases h
    exact ⟨rfl, habove⟩
  next => cases h

/-- It is no farther from the float than half of the last place. -/
theorem Binary.near_of_onGrid? {b : Binary} {scale : ℤ} {d : Digits}
    (h : b.onGrid? scale = some d) :
    d.scale = scale ∧ |d.value - b.magnitude| ≤ 2 ^ (b.exponent - 1) := by
  obtain ⟨hscale, hholds⟩ := b.holds_of_onGrid? h
  obtain ⟨hlow, hhigh⟩ := Span.bounds_of_holds hholds
  have hpos := common_pos (b.exponent - 2) scale
  have hlow' : (b.span.low : ℚ) * 2 ^ (b.exponent - 2) ≤ d.digits * 10 ^ scale := by
    refine le_of_mul_le_mul_right ?_ hpos
    rw [← cast_inUnits, ← cast_onGrid]
    exact_mod_cast hlow
  have hhigh' : (d.digits : ℚ) * 10 ^ scale ≤ b.span.high * 2 ^ (b.exponent - 2) := by
    refine le_of_mul_le_mul_right ?_ hpos
    rw [← cast_inUnits, ← cast_onGrid]
    exact_mod_cast hhigh
  have hspan : (4 * b.significand : ℚ) - 2 ≤ b.span.low ∧
      (b.span.high : ℚ) = 4 * b.significand + 2 := by
    have hle : ((4 * b.significand : ℕ) : ℚ) ≤ ((b.span.low + 2 : ℕ) : ℚ) :=
      Nat.cast_le.mpr b.le_low_span
    push_cast at hle
    refine ⟨by linarith, ?_⟩
    rw [Binary.span]
    push_cast
    ring
  have hunit : (0 : ℚ) < 2 ^ b.exponent := by positivity
  refine ⟨hscale, ?_⟩
  rw [zpow_quarter] at hlow' hhigh'
  rw [Digits.value, hscale, Binary.magnitude, zpow_half, abs_le]
  constructor
  · have hproduct := mul_le_mul_of_nonneg_right hspan.1 hunit.le
    linarith
  · rw [hspan.2] at hhigh'
    linarith

/-- The float itself is in its interval. -/
theorem Binary.holds_value {b : Binary} (hpos : 0 < b.significand) {factor : ℕ}
    (hfactor : 0 < factor) :
    (b.span.scale factor).holds (4 * b.significand * factor) = true := by
  have hlow : b.span.low < 4 * b.significand := by
    rw [Binary.span]
    dsimp only
    split <;> omega
  have hbelow := Nat.mul_lt_mul_of_pos_right hlow hfactor
  have habove := Nat.mul_lt_mul_of_pos_right
    (show 4 * b.significand < b.span.high from Nat.lt_add_of_pos_right (by decide)) hfactor
  rw [Span.holds]
  split
  next =>
    rw [Bool.and_eq_true, decide_eq_true_eq, decide_eq_true_eq]
    exact ⟨hbelow.le, habove.le⟩
  next =>
    rw [Bool.and_eq_true, decide_eq_true_eq, decide_eq_true_eq]
    exact ⟨hbelow, habove⟩

theorem Binary.value_onGrid_whole {b : Binary} {n : ℕ} (hn : b.magnitude = n) :
    4 * b.significand * (Nat.pow 2 (b.exponent - 2).toNat * Nat.pow 10 (-0 : ℤ).toNat) =
      n * (Nat.pow 10 (0 : ℤ).toNat * Nat.pow 2 (-(b.exponent - 2)).toNat) := by
  have hsame : ((4 * b.significand : ℕ) : ℚ) * 2 ^ (b.exponent - 2) = n * 10 ^ (0 : ℤ) := by
    rw [← hn, Binary.magnitude, zpow_quarter]
    push_cast
    ring
  have hcast := cast_inUnits (b.exponent - 2) 0 (4 * b.significand)
  rw [hsame, ← cast_onGrid] at hcast
  exact_mod_cast hcast

/-- A whole number is a point of the grid of whole numbers. -/
theorem Binary.onGrid?_whole {b : Binary} {n : ℕ} (hn : b.magnitude = n)
    (hpos : 0 < b.significand) : ∃ d, b.onGrid? 0 = some d := by
  have hvalue := b.value_onGrid_whole hn
  set factor := Nat.pow 2 (b.exponent - 2).toNat * Nat.pow 10 (-0 : ℤ).toNat with hfactor
  set step := Nat.pow 10 (0 : ℤ).toNat * Nat.pow 2 (-(b.exponent - 2)).toNat with hstep
  have hfactor_pos : 0 < factor := Nat.mul_pos (Nat.pow_pos (by decide)) (Nat.pow_pos (by decide))
  have hstep_pos : 0 < step := Nat.mul_pos (Nat.pow_pos (by decide)) (Nat.pow_pos (by decide))
  have hbelow : (b.span.scale factor).value / step = n := by
    show 4 * b.significand * factor / step = n
    rw [hvalue, Nat.mul_div_cancel _ hstep_pos]
  have hholds : (b.span.scale factor).holds (n * step) = true :=
    hvalue ▸ b.holds_value hpos hfactor_pos
  simp only [Binary.onGrid?, ← hfactor, ← hstep, hbelow, hholds]
  cases (b.span.scale factor).holds ((n + 1) * step) with
  | true => exact ⟨_, rfl⟩
  | false => exact ⟨_, rfl⟩

/-! ## Trailing zeros -/

theorem Digits.value_stripped (d : Digits) :
    d.stripped.value = d.value ∧ d.scale ≤ d.stripped.scale := by
  fun_induction Digits.stripped d with
  | case1 d h ih =>
      refine ⟨ih.1.trans ?_, (Int.le_of_lt (Int.lt_succ d.scale)).trans ih.2⟩
      obtain ⟨k, hk⟩ := Nat.dvd_of_mod_eq_zero h.1
      simp only [Digits.value, hk, Nat.mul_div_cancel_left k (show 0 < 10 by decide)]
      rw [zpow_add₀ (by norm_num)]
      push_cast
      ring
  | case2 d h => exact ⟨rfl, le_rfl⟩

/-! ## The search -/

/-- What is found lies near the float. -/
theorem Binary.near_shortest {b : Binary} (h : b.shortest ≠ ⟨0, 0⟩) :
    |b.shortest.value - b.magnitude| ≤ 2 ^ (b.exponent - 1) := by
  rw [Binary.shortest] at h ⊢
  split
  next d hfound =>
    obtain ⟨n, _, hn⟩ := List.exists_of_findSome?_eq_some hfound
    rw [d.value_stripped.1]
    exact (Binary.near_of_onGrid? hn).2
  next hnone =>
    rw [hnone] at h
    exact absurd rfl h

/-- A whole number has its first digit before the point. -/
theorem Binary.leadingPower_nonneg {b : Binary} (h : 1 ≤ b.magnitude) : 0 ≤ b.leadingPower := by
  have hlog : 0 ≤ (Nat.log2 b.significand : ℤ) + b.exponent := by
    by_contra hneg
    have hexponent : b.exponent < 0 := by omega
    have hlt : b.significand < 2 ^ (-b.exponent).toNat := by
      by_contra hle
      have hpos : b.significand ≠ 0 := by
        have hpow := Nat.two_pow_pos (-b.exponent).toNat
        omega
      have hlog := (Nat.le_log2 hpos).mpr (Nat.le_of_not_lt hle)
      omega
    have hpow : (2 : ℚ) ^ b.exponent * 2 ^ (-b.exponent).toNat = 1 := by
      rw [zpow_mul_toNat two_ne_zero, Int.toNat_of_nonpos hexponent.le, pow_zero]
    have hcast : (b.significand : ℚ) < 2 ^ (-b.exponent).toNat := by exact_mod_cast hlt
    have hunit : (0 : ℚ) < 2 ^ b.exponent := by positivity
    rw [Binary.magnitude] at h
    nlinarith
  have hguess : 0 ≤ ((Nat.log2 b.significand : ℤ) + b.exponent) * 30103 / 100000 :=
    Int.ediv_nonneg (by omega) (by omega)
  simp only [Binary.leadingPower]
  split
  next => exact Int.add_nonneg hguess (by decide)
  next => exact hguess

theorem mem_before_of_range {n k m : ℕ} {before after : List ℕ}
    (h : List.range n = before ++ k :: after) (hm : m < k) : m ∈ before := by
  have hk : k ∈ List.range n := h ▸ List.mem_append_right _ List.mem_cons_self
  have hmem : m ∈ before ++ k :: after :=
    h ▸ List.mem_range.mpr (hm.trans (List.mem_range.mp hk))
  rcases List.mem_append.mp hmem with hmem | hmem
  · exact hmem
  · have hsorted := (List.pairwise_append.mp (h ▸ List.pairwise_lt_range)).2.1
    rcases List.mem_cons.mp hmem with rfl | hmem
    · exact absurd hm (Nat.lt_irrefl m)
    · exact absurd ((List.pairwise_cons.mp hsorted).1 m hmem) (Nat.lt_asymm hm)

/-- A whole number is written without places behind the point. -/
theorem Binary.scale_shortest_nonneg {b : Binary} {n : ℕ} (hn : b.magnitude = n)
    (hpos : 0 < b.significand) : 0 ≤ b.shortest.scale := by
  have hone : 1 ≤ b.magnitude := by
    have hmagnitude : 0 < b.magnitude := by
      rw [Binary.magnitude]
      positivity
    rw [hn] at hmagnitude ⊢
    exact_mod_cast Nat.succ_le_of_lt (Nat.cast_pos.mp hmagnitude)
  have htop := b.leadingPower_nonneg hone
  rw [Binary.shortest]
  split
  next d hfound =>
    refine le_trans ?_ d.value_stripped.2
    obtain ⟨before, k, after, hsplit, hk, hbefore⟩ := List.findSome?_eq_some_iff.mp hfound
    rw [(Binary.near_of_onGrid? hk).1]
    by_contra hneg
    -- the grid of whole numbers came before, and it has a point
    have hmem := mem_before_of_range hsplit (show b.leadingPower.toNat < k by omega)
    have hzero : b.leadingPower - (b.leadingPower.toNat : ℤ) = 0 := by omega
    obtain ⟨d', hd'⟩ := b.onGrid?_whole hn hpos
    rw [← hzero, hbefore _ hmem] at hd'
    cases hd'
  next => exact le_rfl

theorem Digits.value_eq_natCast {d : Digits} (h : 0 ≤ d.scale) :
    d.value = ((d.digits * 10 ^ d.scale.toNat : ℕ) : ℚ) := by
  have hscale := Int.toNat_of_nonneg h
  rw [Digits.value, ← hscale, zpow_natCast, Int.toNat_natCast]
  push_cast
  rfl

/-- A whole number within half of the last place of a float is the float, where the last
place is a fraction of one: in units of it both are whole, and less than one apart. -/
theorem Binary.magnitude_eq_of_near {b : Binary} {n : ℕ} (he : b.exponent < 0)
    (hnear : |n - b.magnitude| ≤ 2 ^ (b.exponent - 1)) : b.magnitude = n := by
  have hpow := zpow_mul_toNat (show (2 : ℚ) ≠ 0 by norm_num) b.exponent
  rw [Int.toNat_of_nonpos he.le, pow_zero] at hpow
  set unit : ℕ := 2 ^ (-b.exponent).toNat with hunit
  have hone : (2 : ℚ) ^ b.exponent * unit = 1 := by
    rw [hunit]
    push_cast
    exact hpow
  have hunit_pos : (0 : ℚ) < unit := by
    rw [hunit]
    positivity
  have hhalf : (2 : ℚ) ^ (b.exponent - 1) * unit < 1 := by
    rw [zpow_half]
    linarith
  have hclose : |(n * unit : ℚ) - b.significand| < 1 := by
    have hscaled : (n * unit : ℚ) - b.significand = (n - b.magnitude) * unit := by
      rw [Binary.magnitude]
      linear_combination (b.significand : ℚ) * hone
    rw [hscaled, abs_mul, abs_of_pos hunit_pos]
    exact lt_of_le_of_lt (mul_le_mul_of_nonneg_right hnear hunit_pos.le) hhalf
  have hclose' : |((n * unit : ℕ) : ℤ) - b.significand| < 1 := by exact_mod_cast hclose
  have hsame : ((n * unit : ℕ) : ℤ) = b.significand :=
    sub_eq_zero.mp (Int.abs_lt_one_iff.mp hclose')
  have hsame' : (b.significand : ℚ) = n * unit := by exact_mod_cast hsame.symm
  rw [Binary.magnitude, hsame']
  linear_combination (n : ℚ) * hone

/-- Digits before the point only make a whole number, and it is the float. -/
theorem Binary.exists_magnitude {b : Binary} (h : b.shortest ≠ ⟨0, 0⟩)
    (hscale : 0 ≤ b.shortest.scale) : ∃ n : ℕ, b.magnitude = n := by
  rcases le_or_gt 0 b.exponent with he | he
  · refine ⟨b.significand * 2 ^ b.exponent.toNat, ?_⟩
    have hpow := zpow_mul_toNat (show (2 : ℚ) ≠ 0 by norm_num) b.exponent
    rw [Int.toNat_of_nonpos (show -b.exponent ≤ 0 by omega), pow_zero, mul_one] at hpow
    rw [Binary.magnitude, hpow]
    push_cast
    rfl
  · have hnear := b.near_shortest h
    rw [Digits.value_eq_natCast hscale] at hnear
    exact ⟨_, Binary.magnitude_eq_of_near he hnear⟩

/-! ## The range of 64-bit integers

Below `2 ^ 63` the last place of a float is 1024 or less, and at `2 ^ 63` the shortest
decimal is above it. So the decimal is on the side of that bound that the float is on. -/

/-- What the parts of a 64-bit float satisfy. -/
structure Binary.Canonical (b : Binary) : Prop where
  /-- The significand has 53 bits at most. -/
  significand_lt : b.significand < 2 ^ 53
  /-- It has fewer only where the exponent is the least. -/
  le_significand : -1074 < b.exponent → 2 ^ 52 ≤ b.significand

theorem Binary.canonical_ofFloat (x : Float) : (Binary.ofFloat x).Canonical := by
  have hfraction : x.toBits.toNat % Nat.pow 2 52 < 2 ^ 52 := Nat.mod_lt _ (by decide)
  constructor
  · simp only [Binary.ofFloat]
    split
    next => exact hfraction.trans (by decide)
    next =>
      show _ + 2 ^ 52 < 2 ^ 53
      omega
  · intro h
    simp only [Binary.ofFloat] at h ⊢
    split
    next hzero =>
      rw [hzero] at h
      exact absurd h (by decide)
    next => exact Nat.le_add_left _ _

theorem Binary.shortest_two_pow (negative : Bool) :
    Binary.shortest ⟨negative, 2 ^ 52, 11⟩ = ⟨9223372036854776, 3⟩ := by
  revert negative
  decide +kernel

/-- With a large exponent, the half of the last place below the float is above the bound.
The float on the bound is the one exception, its significand being the least. -/
theorem Binary.Canonical.lt_below {b : Binary} (hb : b.Canonical) (he : 10 < b.exponent)
    (hleast : ¬ (b.significand = 2 ^ 52 ∧ b.exponent = 11)) :
    (2 ^ 63 : ℚ) < b.magnitude - 2 ^ (b.exponent - 1) := by
  rw [Binary.magnitude, zpow_half]
  have hnormal : 2 ^ 52 ≤ b.significand := hb.le_significand (by omega)
  rcases eq_or_lt_of_le (show 11 ≤ b.exponent by omega) with heq | hlt
  · have hmore : (2 ^ 52 + 1 : ℚ) ≤ b.significand := by
      have hne : b.significand ≠ 2 ^ 52 := fun hs => hleast ⟨hs, heq.symm⟩
      exact_mod_cast show 2 ^ 52 + 1 ≤ b.significand by omega
    have hunit : (2 : ℚ) ^ b.exponent = 2 ^ 11 := by
      rw [← heq]
      norm_num
    rw [hunit]
    linarith
  · have hlarge : (2 ^ (12 : ℤ) : ℚ) ≤ 2 ^ b.exponent :=
      zpow_le_zpow_right₀ one_le_two (by omega)
    have hnormal' : (2 ^ 52 : ℚ) ≤ b.significand := by exact_mod_cast hnormal
    have hunit : (0 : ℚ) < 2 ^ b.exponent := by positivity
    have hproduct := mul_le_mul_of_nonneg_right hnormal' hunit.le
    norm_num at hlarge
    linarith

/-- With a small one, the half above it is below the bound. -/
theorem Binary.Canonical.above_lt {b : Binary} (hb : b.Canonical) (he : b.exponent ≤ 10) :
    b.magnitude + 2 ^ (b.exponent - 1) < (2 ^ 63 : ℚ) := by
  rw [Binary.magnitude, zpow_half]
  have hsignificand : (b.significand : ℚ) ≤ 2 ^ 53 - 1 := by
    have hle : ((b.significand + 1 : ℕ) : ℚ) ≤ ((2 ^ 53 : ℕ) : ℚ) :=
      Nat.cast_le.mpr hb.significand_lt
    push_cast at hle
    linarith
  have hsmall : (2 ^ b.exponent : ℚ) ≤ 2 ^ (10 : ℤ) := zpow_le_zpow_right₀ one_le_two he
  have hunit : (0 : ℚ) < 2 ^ b.exponent := by positivity
  have hproduct := mul_le_mul_of_nonneg_right hsignificand hunit.le
  norm_num at hsmall
  linarith

/-- A whole decimal is below `2 ^ 63` exactly where the float is, and never equal to it. -/
theorem Binary.lt_shortest_iff {b : Binary} (hb : b.Canonical) (h : b.shortest ≠ ⟨0, 0⟩)
    (hscale : 0 ≤ b.shortest.scale) :
    (b.shortest.digits * 10 ^ b.shortest.scale.toNat < 2 ^ 63 ∧ b.magnitude < 2 ^ 63) ∨
      2 ^ 63 < b.shortest.digits * 10 ^ b.shortest.scale.toNat ∧ ¬ b.magnitude < 2 ^ 63 := by
  have hnear := b.near_shortest h
  rw [Digits.value_eq_natCast hscale, abs_le] at hnear
  have hhalf : (0 : ℚ) < 2 ^ (b.exponent - 1) := by positivity
  rcases lt_or_ge 10 b.exponent with he | he
  · right
    by_cases hleast : b.significand = 2 ^ 52 ∧ b.exponent = 11
    · have hparts : b = ⟨b.negative, 2 ^ 52, 11⟩ := by
        cases b
        obtain ⟨rfl, rfl⟩ := hleast
        rfl
      rw [Binary.magnitude, hleast.1, hleast.2, hparts, Binary.shortest_two_pow]
      exact ⟨by decide, by norm_num⟩
    · have hbelow := hb.lt_below he hleast
      refine ⟨?_, by linarith⟩
      have hcast : (2 ^ 63 : ℚ) < (b.shortest.digits * 10 ^ b.shortest.scale.toNat : ℕ) := by
        linarith
      exact_mod_cast hcast
  · left
    have habove := hb.above_lt he
    refine ⟨?_, by linarith⟩
    have hcast : ((b.shortest.digits * 10 ^ b.shortest.scale.toNat : ℕ) : ℚ) < 2 ^ 63 := by
      linarith
    exact_mod_cast hcast

end TableVerbs.Decimal
