import TableVerbs.Decimal.Layout
import TableVerbs.Decimal.Reading
import TableVerbs.Proofs.ExactArithmetic

/-!
# Texts that are read as numbers

A run of digits is read as the number that it stands for, with a minus in front
as the negative of it, and as nothing if that leaves 64 bits. So the text of an
integer is read as that integer. With a point among the digits, or with a power
of ten behind them, a text is read as a float and never as an integer.
-/

namespace TableVerbs.Decimal

/-! ## Runs of digits -/

/-- One digit or more, and nothing else. -/
def Run (cs : List Char) : Prop := cs ≠ [] ∧ ∀ c ∈ cs, c.isDigit = true

instance (cs : List Char) : Decidable (Run cs) :=
  decidable_of_iff (cs ≠ [] ∧ cs.all Char.isDigit = true) (by rw [Run, List.all_eq_true])

theorem digitsValue_digitChars (n : Nat) : digitsValue (digitChars n) = n := by
  have hvalue := Nat.ofDigitChars_ten_toDigits (n := n)
  rwa [Nat.ofDigitChars_eq_foldl] at hvalue

theorem run_digitChars (n : Nat) : Run (digitChars n) :=
  ⟨Nat.toDigits_ne_nil, fun _ h => Nat.isDigit_of_mem_toDigits (by decide) (by decide) h⟩

theorem Run.append_digits {cs ds : List Char} (h : Run cs) (hds : ∀ c ∈ ds, c.isDigit = true) :
    Run (cs ++ ds) :=
  ⟨List.append_ne_nil_of_left_ne_nil h.1 ds, List.forall_mem_append.mpr ⟨h.2, hds⟩⟩

theorem readDigits?_run {cs : List Char} (h : Run cs) :
    readDigits? cs = some (digitsValue cs) := by
  rw [readDigits?, if_pos ⟨h.1, List.all_eq_true.mpr h.2⟩]

theorem run_of_readDigits? {cs : List Char} {n : Nat} (h : readDigits? cs = some n) : Run cs := by
  rw [readDigits?] at h
  split at h
  · next hrun => exact ⟨hrun.1, List.all_eq_true.mp hrun.2⟩
  · cases h

/-- What begins with a digit has no sign. -/
theorem splitSign_of_digit {c : Char} {rest : List Char} (h : c.isDigit = true) :
    splitSign (c :: rest) = (false, c :: rest) := by
  rw [splitSign.eq_def]
  split
  · next heq =>
      cases heq
      cases h
  · next heq =>
      cases heq
      cases h
  · rfl

theorem Run.exists_cons {cs : List Char} (h : Run cs) (rest : List Char) :
    ∃ d ds, cs ++ rest = d :: ds ∧ d.isDigit = true := by
  cases cs with
  | nil => exact absurd rfl h.1
  | cons d ds => exact ⟨d, ds ++ rest, rfl, h.2 d List.mem_cons_self⟩

theorem splitSign_run {cs : List Char} (h : Run cs) (rest : List Char) :
    splitSign (cs ++ rest) = (false, cs ++ rest) := by
  obtain ⟨d, ds, heq, hd⟩ := h.exists_cons rest
  rw [heq, splitSign_of_digit hd]

/-! ## Integers -/

theorem readInt?_run {cs : List Char} (h : Run cs) :
    readInt? cs = Number.narrow? (digitsValue cs) := by
  have hsign := splitSign_run h []
  rw [List.append_nil] at hsign
  simp only [readInt?, hsign, readDigits?_run h]
  rfl

theorem readInt?_negative {cs : List Char} (h : Run cs) :
    readInt? ('-' :: cs) = Number.narrow? (-(digitsValue cs : Int)) := by
  simp only [readInt?, splitSign, readDigits?_run h, if_true]

theorem toList_toString (n : Int) :
    (toString n).toList =
      if n < 0 then '-' :: digitChars n.natAbs else digitChars n.natAbs := by
  cases n with
  | ofNat k =>
      rw [if_neg (show ¬Int.ofNat k < 0 from Int.not_lt.mpr (Int.natCast_nonneg k))]
      exact Nat.toList_repr
  | negSucc k =>
      rw [if_pos (Int.negSucc_lt_zero k)]
      show ("-" ++ (k + 1).repr).toList = _
      rw [String.toList_append, Nat.toList_repr]
      rfl

/-- The text of an integer is read as the integer. -/
theorem readInt?_toString (v : Int64) : readInt? (toString v.toInt).toList = some v := by
  rw [toList_toString]
  split
  · next hneg =>
      rw [readInt?_negative (run_digitChars _), digitsValue_digitChars, Number.narrow?_eq_some]
      omega
  · next hpos =>
      rw [readInt?_run (run_digitChars _), digitsValue_digitChars, Number.narrow?_eq_some]
      omega

/-- Only digits behind an optional sign are read as an integer. -/
theorem isDigit_of_readInt? {cs : List Char} {n : Int64} (h : readInt? cs = some n) :
    ∀ c ∈ cs, c = '-' ∨ c = '+' ∨ c.isDigit = true := by
  have hdigits : ∀ c ∈ (splitSign cs).2, c.isDigit = true := by
    simp only [readInt?] at h
    split at h
    · next m hm => exact (run_of_readDigits? hm).2
    · cases h
  intro c hc
  rw [splitSign.eq_def] at hdigits
  split at hdigits
  · rcases List.mem_cons.mp hc with rfl | hc
    · exact .inl rfl
    · exact .inr (.inr (hdigits c hc))
  · rcases List.mem_cons.mp hc with rfl | hc
    · exact .inr (.inl rfl)
    · exact .inr (.inr (hdigits c hc))
  · exact .inr (.inr (hdigits c hc))

/-! ## Floats -/

/-- Nothing, or an `e` and a number that may have a sign. -/
inductive Power : List Char → Prop
  | none : Power []
  | some {e : Char} {sign ds : List Char} :
      e = 'e' ∨ e = 'E' → sign ∈ [[], ['+'], ['-']] → Run ds → Power (e :: (sign ++ ds))

/-- Digits, a point and digits, with a power of ten or without. -/
def Pointed (cs : List Char) : Prop :=
  ∃ whole places power, Run whole ∧ Run places ∧ Power power ∧
    cs = whole ++ '.' :: (places ++ power)

theorem readPower?_power {cs : List Char} (h : Power cs) : ∃ n, readPower? cs = some n := by
  cases h with
  | none => exact ⟨0, rfl⟩
  | @some e sign ds he hsign hds =>
      have hrun : readDigits? (splitSign (sign ++ ds)).2 = some (digitsValue ds) := by
        simp only [List.mem_cons, List.not_mem_nil, or_false] at hsign
        rcases hsign with rfl | rfl | rfl
        · have hplain := splitSign_run hds []
          rw [List.append_nil] at hplain
          rw [List.nil_append, hplain, readDigits?_run hds]
        · exact readDigits?_run hds
        · exact readDigits?_run hds
      simp only [readPower?, if_pos he, hrun]
      exact ⟨_, rfl⟩

/-- A run of digits ends where something else begins. -/
theorem takeWhile_run {cs rest : List Char} (h : ∀ c ∈ cs, c.isDigit = true)
    (hrest : ∀ c ∈ rest.head?, c.isDigit = false) :
    (cs ++ rest).takeWhile Char.isDigit = cs ∧ (cs ++ rest).dropWhile Char.isDigit = rest := by
  rw [List.takeWhile_append_of_pos h, List.dropWhile_append_of_pos h]
  cases rest with
  | nil => exact ⟨List.append_nil cs, rfl⟩
  | cons c rest =>
      have hc := hrest c rfl
      simp [hc]

theorem Power.head {cs : List Char} (h : Power cs) : ∀ c ∈ cs.head?, c.isDigit = false := by
  cases h with
  | none => exact fun _ h => by cases h
  | some he _ _ =>
      rintro _ ⟨⟩
      rcases he with rfl | rfl <;> rfl

/-- A number with a point is read as a float. -/
theorem readFloat?_pointed {cs : List Char} (h : Pointed cs) : ∃ x, readFloat? cs = some x := by
  obtain ⟨whole, places, power, hwhole, hplaces, hpower, rfl⟩ := h
  obtain ⟨n, hn⟩ := readPower?_power hpower
  have hmark : ∀ c ∈ ('.' :: (places ++ power)).head?, c.isDigit = false := by
    rintro _ ⟨⟩
    rfl
  have hpoint := takeWhile_run hwhole.2 hmark
  have hrest := takeWhile_run hplaces.2 hpower.head
  have hdecimal : ∃ x, readDecimal? (whole ++ '.' :: (places ++ power)) = some x := by
    simp only [readDecimal?, hpoint, hrest, hn, hwhole.1, false_and, if_false, Option.map_some]
    exact ⟨_, rfl⟩
  obtain ⟨x, hx⟩ := hdecimal
  simp only [readFloat?, splitSign_run hwhole, hx]
  cases readWord? (whole ++ '.' :: (places ++ power)) with
  | none => exact ⟨_, rfl⟩
  | some y => exact ⟨_, rfl⟩

/-- What is read as an integer is read as a float, too. -/
theorem readFloat?_of_readInt? {cs : List Char} {n : Int64} (h : readInt? cs = some n) :
    ∃ x, readFloat? cs = some x := by
  have hrun : Run (splitSign cs).2 := by
    simp only [readInt?] at h
    split at h
    · next m hm => exact run_of_readDigits? hm
    · cases h
  have hsplit := @takeWhile_run _ [] hrun.2 fun _ h => by cases h
  rw [List.append_nil] at hsplit
  have hdecimal : ∃ x, readDecimal? (splitSign cs).2 = some x := by
    simp only [readDecimal?, hsplit, hrun.1, false_and, if_false, readPower?, Option.map_some]
    exact ⟨_, rfl⟩
  obtain ⟨x, hx⟩ := hdecimal
  simp only [readFloat?, hx]
  cases readWord? (splitSign cs).2 with
  | none => exact ⟨_, rfl⟩
  | some y => exact ⟨_, rfl⟩

end TableVerbs.Decimal
