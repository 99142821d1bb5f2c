import TableVerbs.Proofs.ColumnTexts
import TableVerbs.Proofs.ShortestDecimal

/-!
# The texts of floats

A float is written without an exponent, and a whole one without a point. So its text is
read as an integer exactly where the float is a whole number that fits 64 bits, and the
text of any other is read as a float. The words for infinity and NaN are read as what
they stand for.
-/

namespace TableVerbs

namespace Decimal

/-- A run of digits behind a minus or none. -/
def signed (negative : Bool) (cs : List Char) : List Char := if negative then '-' :: cs else cs

theorem readInt?_signed (negative : Bool) {cs : List Char} (h : Run cs) :
    readInt? (signed negative cs) =
      Number.narrow? (if negative then -(digitsValue cs : Int) else digitsValue cs) := by
  cases negative with
  | true => exact readInt?_negative h
  | false => exact readInt?_run h

theorem digitsValue_zeros (cs : List Char) (n : Nat) :
    digitsValue (cs ++ zeros n) = digitsValue cs * 10 ^ n := by
  induction n with
  | zero => rw [zeros, List.replicate_zero, List.append_nil, pow_zero, mul_one]
  | succ n ih =>
      rw [zeros] at ih ⊢
      rw [List.replicate_succ', ← List.append_assoc, digitsValue, List.foldl_append, ← digitsValue,
        ih, pow_succ]
      show 10 * (digitsValue cs * 10 ^ n) + 0 = _
      ring

/-! ## Positional texts -/

/-- The text of a decimal without places is its digits and zeros. -/
theorem positional_of_nonneg {d : Digits} (h : 0 ≤ d.scale) :
    d.positional .cell = digitChars d.digits ++ zeros d.scale.toNat := by
  simp only [Digits.positional, if_pos h]
  exact List.append_nil _

theorem isDigit_of_mem_zeros {n : Nat} : ∀ c ∈ zeros n, c.isDigit = true := by
  intro c hc
  rw [List.eq_of_mem_replicate hc]
  rfl

theorem run_positional {d : Digits} (h : 0 ≤ d.scale) : Run (d.positional .cell) := by
  rw [positional_of_nonneg h]
  exact (run_digitChars _).append_digits isDigit_of_mem_zeros

theorem digitsValue_positional {d : Digits} (h : 0 ≤ d.scale) :
    digitsValue (d.positional .cell) = d.digits * 10 ^ d.scale.toNat := by
  rw [positional_of_nonneg h, digitsValue_zeros, digitsValue_digitChars]

/-- One with places has a point. -/
theorem point_mem_positional {d : Digits} (h : d.scale < 0) : '.' ∈ d.positional .cell := by
  simp only [Digits.positional, if_neg (not_le.mpr h)]
  exact List.mem_append_right _ List.mem_cons_self

theorem mem_positional {d : Digits} : ∀ c ∈ d.positional .cell, c = '.' ∨ c.isDigit = true := by
  have hpadded : ∀ n, ∀ c ∈ zeros n ++ digitChars d.digits, c.isDigit = true := by
    intro n c hc
    rcases List.mem_append.mp hc with hc | hc
    · exact isDigit_of_mem_zeros c hc
    · exact (run_digitChars d.digits).2 c hc
  intro c hc
  by_cases hscale : 0 ≤ d.scale
  · exact .inr ((run_positional hscale).2 c hc)
  · simp only [Digits.positional, if_neg hscale] at hc
    rcases List.mem_append.mp hc with hc | hc
    · exact .inr (hpadded _ c (List.mem_of_mem_take hc))
    · rcases List.mem_cons.mp hc with hc | hc
      · exact .inl hc
      · exact .inr (hpadded _ c (List.mem_of_mem_drop hc))

/-! ## Finite floats -/

/-- The digits of a finite float. -/
def Binary.digits (b : Binary) : Digits := if b.significand = 0 then ⟨0, 0⟩ else b.shortest

/-- The text of a finite float is its digits behind a minus or none. -/
theorem toList_write {x : Float} (hnan : x.isNaN = false) (hinf : x.isInf = false) :
    (Layout.cell.write x).toList =
      signed (Binary.ofFloat x).negative ((Binary.ofFloat x).digits.positional .cell) := by
  have hdigits : (if (Binary.ofFloat x).significand = 0 then Digits.positional .cell ⟨0, 0⟩
      else Layout.cell.digits (Binary.ofFloat x).shortest) =
        (Binary.ofFloat x).digits.positional .cell := by
    rw [Binary.digits]
    split <;> rfl
  simp only [Layout.write, hnan, hinf, Bool.false_eq_true, if_false, String.toList_ofList, hdigits]
  rfl

/-- Whether a float is finite and whole and, as that, smaller than `2 ^ 63`. -/
def FitsInteger (x : Float) : Prop :=
  x.isNaN = false ∧ x.isInf = false ∧
    ∃ n : ℕ, n < 2 ^ 63 ∧ (Binary.ofFloat x).magnitude = n

/-- A float that is read back from its text has other digits than zero, unless it is zero. -/
theorem Binary.shortest_ne_zero {x : Float} (hnan : x.isNaN = false) (hinf : x.isInf = false)
    (hback : readFloat? (Layout.cell.write x).toList = some x)
    (hzero : (Binary.ofFloat x).significand ≠ 0) : (Binary.ofFloat x).shortest ≠ ⟨0, 0⟩ := by
  intro hnone
  have hread : ∀ negative, (readFloat? (signed negative (Digits.positional .cell ⟨0, 0⟩))).any
      (fun y => (Binary.ofFloat y).significand == 0) = true := by
    decide
  rw [toList_write hnan hinf, Binary.digits, if_neg hzero, hnone] at hback
  have hx := hread (Binary.ofFloat x).negative
  rw [hback, Option.any_some, beq_iff_eq] at hx
  exact hzero hx

theorem narrow?_signed (negative : Bool) (n : ℕ) :
    (n < 2 ^ 63 → ∃ v, Number.narrow? (if negative then -(n : Int) else n) = some v) ∧
      (2 ^ 63 < n → ∀ v, Number.narrow? (if negative then -(n : Int) else n) ≠ some v) := by
  constructor
  · intro h
    refine Option.ne_none_iff_exists'.mp fun hnone => Number.narrow?_eq_none.mp hnone ?_
    cases negative with
    | true =>
        show -2 ^ 63 ≤ -(n : Int) ∧ -(n : Int) < 2 ^ 63
        omega
    | false =>
        show -2 ^ 63 ≤ (n : Int) ∧ (n : Int) < 2 ^ 63
        omega
  · intro h v hv
    have hrange := Number.inRange_toInt v
    rw [← Number.narrow?_eq_some.mp hv] at hrange
    cases negative with
    | true =>
        have hlow : -2 ^ 63 ≤ -(n : Int) := hrange.1
        omega
    | false =>
        have hhigh : (n : Int) < 2 ^ 63 := hrange.2
        omega

theorem Binary.readInt?_places {b : Binary} (h : b.shortest.scale < 0) (v : Int64) :
    readInt? (signed b.negative (b.shortest.positional .cell)) ≠ some v := by
  intro hv
  have hpoint : '.' ∈ signed b.negative (b.shortest.positional .cell) := by
    rw [signed]
    split
    next => exact List.mem_cons_of_mem _ (point_mem_positional h)
    next => exact point_mem_positional h
  rcases isDigit_of_readInt? hv '.' hpoint with hc | hc | hc
  · cases hc
  · cases hc
  · cases hc

theorem Binary.readInt?_whole_iff {b : Binary} (hb : b.Canonical) (h : b.shortest ≠ ⟨0, 0⟩)
    (hscale : 0 ≤ b.shortest.scale) :
    (∃ v, readInt? (signed b.negative (b.shortest.positional .cell)) = some v) ↔
      ∃ n : ℕ, n < 2 ^ 63 ∧ b.magnitude = n := by
  rw [readInt?_signed _ (run_positional hscale), digitsValue_positional hscale]
  rcases Binary.lt_shortest_iff hb h hscale with ⟨hlt, hmagnitude⟩ | ⟨hlt, hmagnitude⟩
  · refine iff_of_true ((narrow?_signed b.negative _).1 hlt) ?_
    obtain ⟨n, hn⟩ := Binary.exists_magnitude h hscale
    refine ⟨n, ?_, hn⟩
    rw [hn] at hmagnitude
    exact_mod_cast hmagnitude
  · refine iff_of_false ?_ ?_
    · rintro ⟨v, hv⟩
      exact (narrow?_signed b.negative _).2 hlt v hv
    · rintro ⟨n, hn, hmag⟩
      rw [hmag] at hmagnitude
      exact hmagnitude (by exact_mod_cast hn)

/-- The text of a finite float is read as an integer exactly where it is a whole number that
fits 64 bits. -/
theorem readInt?_write_iff {x : Float} (hnan : x.isNaN = false) (hinf : x.isInf = false)
    (hback : readFloat? (Layout.cell.write x).toList = some x) :
    (∃ v, readInt? (Layout.cell.write x).toList = some v) ↔ FitsInteger x := by
  have hcanonical := Binary.canonical_ofFloat x
  have hne := Binary.shortest_ne_zero hnan hinf hback
  rw [toList_write hnan hinf]
  rw [FitsInteger]
  simp only [hnan, hinf, true_and]
  generalize Binary.ofFloat x = b at hcanonical hne
  by_cases hzero : b.significand = 0
  · rw [Binary.digits, if_pos hzero]
    refine iff_of_true ?_ ⟨0, by decide, by rw [Binary.magnitude, hzero]; simp⟩
    have hread : ∀ negative,
        readInt? (signed negative (Digits.positional .cell ⟨0, 0⟩)) = some 0 := by
      decide
    exact ⟨0, hread b.negative⟩
  · rw [Binary.digits, if_neg hzero]
    rcases lt_or_ge b.shortest.scale 0 with hscale | hscale
    · refine iff_of_false ?_ ?_
      · rintro ⟨v, hv⟩
        exact Binary.readInt?_places hscale v hv
      · rintro ⟨n, _, hn⟩
        exact not_le.mpr hscale (Binary.scale_shortest_nonneg hn (Nat.pos_of_ne_zero hzero))
    · exact Binary.readInt?_whole_iff hcanonical (hne hzero) hscale

/-! ## Infinity and NaN -/

theorem eq_nan_of_isNaN {x : Float} (h : x.isNaN = true) : x = Float.nan := by
  rw [Float.isNaN_eq_decide_eq_nan, decide_eq_true_eq] at h
  exact h

theorem eq_infinity_of_isInf {x : Float} (h : x.isInf = true) :
    x = 1.0 / 0.0 ∨ x = -(1.0 / 0.0) := by
  have hpack := Float.Model.UnpackedFloat.pack_unpack_of_valid x.toModel.valid
  have hunpack : (Float.Model.UnpackedFloat.unpack .binary64 x.toModel.toBits.toBitVec).isInf =
      true := h
  have hbits : ∀ y : Float, x.toModel.toBits.toBitVec = y.toBits.toBitVec → x = y :=
    fun y hy => Float.toBits_inj.mp (UInt64.toBitVec_inj.mp hy)
  revert hpack hunpack
  cases Float.Model.UnpackedFloat.unpack .binary64 x.toModel.toBits.toBitVec with
  | infinity sign =>
      intro hpack _
      cases sign with
      | positive => exact .inl (hbits _ (hpack.symm.trans rfl))
      | negative => exact .inr (hbits _ (hpack.symm.trans rfl))
  | notANumber => exact fun _ h => by cases h
  | zero sign => exact fun _ h => by cases h
  | finite sign mantissa exponent hpos => exact fun _ h => by cases h

end Decimal

namespace Csv

/-- A number that is finite is read back from its text. -/
def DisplaysFaithfully (x : Float) : Prop :=
  x.isNaN = false → x.isInf = false →
    Decimal.readFloat? (Decimal.Layout.cell.write x).toList = some x

theorem trimmed_write {x : Float} (hnan : x.isNaN = false) (hinf : x.isInf = false) :
    Text.trimmed (Decimal.Layout.cell.write x).toList = (Decimal.Layout.cell.write x).toList := by
  rw [Decimal.toList_write hnan hinf]
  refine Text.trimmed_of_visible fun c hc => ?_
  have hcases : c = '-' ∨ c = '.' ∨ c.isDigit = true := by
    rw [Decimal.signed] at hc
    split at hc
    next => exact (List.mem_cons.mp hc).imp_right (Decimal.mem_positional c)
    next => exact .inr (Decimal.mem_positional c hc)
  rcases hcases with rfl | rfl | hdigit
  · exact Text.isBlank_of_visible (by decide) (by decide)
  · exact Text.isBlank_of_visible (by decide) (by decide)
  · exact Text.isBlank_of_isDigit hdigit

/-- The words for NaN and for infinity are those of floats, and of no integers. -/
theorem fields_of_words : ∀ x ∈ [Float.nan, 1.0 / 0.0, -(1.0 / 0.0)],
    floatField? (Cell.float x).text = some x ∧ intField? (Cell.float x).text = none := by
  simp only [floatField?, intField?]
  decide +kernel

/-- A float is read back from its field. -/
theorem floatField?_text {x : Float} (h : DisplaysFaithfully x) :
    floatField? (Cell.float x).text = some x := by
  cases hnan : x.isNaN with
  | true => exact (fields_of_words x (by simp [Decimal.eq_nan_of_isNaN hnan])).1
  | false =>
      cases hinf : x.isInf with
      | true =>
          rcases Decimal.eq_infinity_of_isInf hinf with rfl | rfl
          · exact (fields_of_words _ (by simp)).1
          · exact (fields_of_words _ (by simp)).1
      | false => rw [floatField?, Cell.text, trimmed_write hnan hinf, h hnan hinf]

/-- It is read as an integer exactly where it is one. -/
theorem intField?_text_iff {x : Float} (h : DisplaysFaithfully x) :
    (∃ v, intField? (Cell.float x).text = some v) ↔ Decimal.FitsInteger x := by
  cases hnan : x.isNaN with
  | true =>
      refine iff_of_false ?_ fun hfits => by rw [hfits.1] at hnan; cases hnan
      rintro ⟨v, hv⟩
      rw [(fields_of_words x (by simp [Decimal.eq_nan_of_isNaN hnan])).2] at hv
      cases hv
  | false =>
      cases hinf : x.isInf with
      | true =>
          refine iff_of_false ?_ fun hfits => by rw [hfits.2.1] at hinf; cases hinf
          rintro ⟨v, hv⟩
          rcases Decimal.eq_infinity_of_isInf hinf with rfl | rfl
          · rw [(fields_of_words _ (by simp)).2] at hv
            cases hv
          · rw [(fields_of_words _ (by simp)).2] at hv
            cases hv
      | false =>
          rw [intField?, Cell.text, trimmed_write hnan hinf]
          exact Decimal.readInt?_write_iff hnan hinf (h hnan hinf)

end Csv

end TableVerbs
