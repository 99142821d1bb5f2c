import TableVerbs.Expr.Reducer
import TableVerbs.Proofs.ColumnCells
import TableVerbs.Proofs.ExactArithmetic

/-!
# Sums and running sums

A sum of integers fails at the first partial sum that does not fit, and so does a
running sum, though the one is a fold and the other collects a list. What decides is
the same for both: the exact sums of all prefixes, over the integers, have to be in
range. An accumulator stands for the prefix that has been read, so the condition is
stated for an accumulator and a list, and reading one more number moves it from the
list to the accumulator.

Truth values are counted by the one and added one by one by the other, both without
a check. They could only wrap around after 2^63 rows, and with fewer rows they are
summed as a column of zeros and ones would be.
-/

namespace TableVerbs

open Number

/-! ## Exact sums -/

/-- The sum of some integers, whether it fits or not. -/
def exactSum (xs : List Int64) : Int := (xs.map Int64.toInt).sum

@[simp] theorem exactSum_nil : exactSum [] = 0 := rfl

@[simp] theorem exactSum_cons (x : Int64) (xs : List Int64) :
    exactSum (x :: xs) = x.toInt + exactSum xs := List.sum_cons

/-- Whether every prefix of a list has a sum in range, when it is added to `total`. -/
def PrefixesFit (total : Int) (xs : List Int64) : Prop :=
  ∀ k ≤ xs.length, InRange (total + exactSum (xs.take k))

section

variable {total : Int} {x : Int64} {xs : List Int64}

theorem PrefixesFit.start (h : PrefixesFit total xs) : InRange total := by
  have hnone := h 0 (Nat.zero_le _)
  rwa [List.take_zero, exactSum_nil, Int.add_zero] at hnone

theorem PrefixesFit.whole (h : PrefixesFit total xs) : InRange (total + exactSum xs) := by
  have hall := h xs.length (Nat.le_refl _)
  rwa [List.take_length] at hall

theorem prefixesFit_nil : PrefixesFit total [] ↔ InRange total := by
  refine ⟨PrefixesFit.start, fun h k _ => ?_⟩
  rwa [List.take_nil, exactSum_nil, Int.add_zero]

/-- Reading a number moves it into the total. -/
theorem prefixesFit_cons :
    PrefixesFit total (x :: xs) ↔ InRange total ∧ PrefixesFit (total + x.toInt) xs := by
  have hmoved : ∀ k, total + exactSum ((x :: xs).take (k + 1)) =
      total + x.toInt + exactSum (xs.take k) := by
    intro k
    rw [List.take_succ_cons, exactSum_cons, Int.add_assoc]
  constructor
  · intro h
    refine ⟨h.start, fun k hk => ?_⟩
    rw [← hmoved]
    exact h (k + 1) (Nat.succ_le_succ hk)
  · rintro ⟨htotal, h⟩ k hk
    cases k with
    | zero => rwa [List.take_zero, exactSum_nil, Int.add_zero]
    | succ k =>
        rw [hmoved]
        exact h k (Nat.le_of_succ_le_succ hk)

end

section

variable {a b c : Int64} {xs : List Int64}

theorem add?_eq_some : add? a b = some c ↔ c.toInt = a.toInt + b.toInt :=
  narrow?_eq_some.trans eq_comm

/-- A number that can be added leaves it to the others whether all prefixes fit. -/
theorem prefixesFit_of_add? (h : add? a b = some c) :
    PrefixesFit a.toInt (b :: xs) ↔ PrefixesFit c.toInt xs := by
  have ha := inRange_toInt a
  rw [prefixesFit_cons, add?_eq_some.mp h]
  exact and_iff_right ha

theorem not_prefixesFit_of_add? (h : add? a b = none) : ¬PrefixesFit a.toInt (b :: xs) := by
  intro hfit
  exact narrow?_eq_none.mp h (prefixesFit_cons.mp hfit).2.start

end

namespace Reducer

variable {xs : List Int64} {total : Int64}

/-! ## Adding up -/

/-- Adding up is exact, and fails exactly if some prefix does not fit. -/
theorem foldlM_add?_eq_some {n : Int64} :
    xs.foldlM add? total = some n ↔
      PrefixesFit total.toInt xs ∧ n.toInt = total.toInt + exactSum xs := by
  -- the total is what has been read, so each step is about another total
  induction xs generalizing total with
  | nil =>
      have hfit := prefixesFit_nil.mpr (inRange_toInt total)
      rw [List.foldlM_nil, exactSum_nil, Int.add_zero, Int64.toInt_inj]
      exact ⟨fun h => ⟨hfit, (Option.some.inj h).symm⟩, fun h => congrArg some h.2.symm⟩
  | cons x xs ih =>
      cases hnext : add? total x with
      | none =>
          rw [List.foldlM_cons, hnext]
          exact iff_of_false (by rintro ⟨⟩) fun h => not_prefixesFit_of_add? hnext h.1
      | some next =>
          rw [List.foldlM_cons, hnext, prefixesFit_of_add? hnext, exactSum_cons, ← Int.add_assoc,
            ← add?_eq_some.mp hnext]
          exact ih

theorem exists_foldlM_add? : (∃ n, xs.foldlM add? total = some n) ↔ PrefixesFit total.toInt xs := by
  simp only [foldlM_add?_eq_some]
  constructor
  · rintro ⟨_, hfit, _⟩
    exact hfit
  · intro hfit
    obtain ⟨hlow, hhigh⟩ := hfit.whole
    exact ⟨Int64.ofInt (total.toInt + exactSum xs), hfit, Int64.toInt_ofInt_of_le hlow hhigh⟩

/-! ## Collecting the sums -/

theorem runningInts?_cons {x : Int64} {sums : List Int64} :
    runningInts? total (x :: xs) = some sums ↔
      ∃ next rest, add? total x = some next ∧ runningInts? next xs = some rest ∧
        next :: rest = sums := by
  rw [runningInts?]
  cases add? total x with
  | none => simp
  | some next => simp [Option.map_eq_some_iff]

/-- The running sums are there under the same condition as the sum. -/
theorem exists_runningInts? :
    (∃ sums, runningInts? total xs = some sums) ↔ PrefixesFit total.toInt xs := by
  induction xs generalizing total with
  | nil => exact iff_of_true ⟨[], rfl⟩ (prefixesFit_nil.mpr (inRange_toInt total))
  | cons x xs ih =>
      cases hnext : add? total x with
      | none =>
          refine iff_of_false ?_ (not_prefixesFit_of_add? hnext)
          rintro ⟨sums, hsums⟩
          obtain ⟨next, rest, hsome, _⟩ := runningInts?_cons.mp hsums
          cases hnext.symm.trans hsome
      | some next =>
          rw [prefixesFit_of_add? hnext, ← ih]
          constructor
          · rintro ⟨sums, hsums⟩
            obtain ⟨_, rest, hsome, hrest, _⟩ := runningInts?_cons.mp hsums
            cases hnext.symm.trans hsome
            exact ⟨rest, hrest⟩
          · rintro ⟨rest, hrest⟩
            exact ⟨next :: rest, runningInts?_cons.mpr ⟨next, rest, hnext, hrest, rfl⟩⟩

/-- Each of them is the sum of the numbers up to its place. -/
theorem getElem?_runningInts? {sums : List Int64} (h : runningInts? total xs = some sums) :
    sums.length = xs.length ∧
      ∀ k < xs.length, sums[k]? = (xs.take (k + 1)).foldlM add? total := by
  induction xs generalizing total sums with
  | nil =>
      cases h
      exact ⟨rfl, fun _ hk => absurd hk (Nat.not_lt_zero _)⟩
  | cons x xs ih =>
      obtain ⟨next, rest, hnext, hrest, rfl⟩ := runningInts?_cons.mp h
      obtain ⟨hlen, hsums⟩ := ih hrest
      refine ⟨congrArg Nat.succ hlen, fun k hk => ?_⟩
      rw [List.take_succ_cons, List.foldlM_cons, hnext]
      cases k with
      | zero => rfl
      | succ k => exact hsums k (Nat.lt_of_succ_lt_succ hk)

/-! ## Truth values -/

theorem toInt_bit (b : Bool) : (Cell.bit b).toInt = if b then 1 else 0 := by
  cases b <;> rfl

theorem exactSum_bits (bs : List Bool) : exactSum (bs.map Cell.bit) = bs.count true := by
  induction bs with
  | nil => rfl
  | cons b bs ih =>
      rw [List.map_cons, exactSum_cons, ih, toInt_bit, List.count_cons]
      cases b <;> simp [Int.add_comm]

theorem sumInts?_bits {bs : List Bool} (h : bs.length < 2 ^ 63) :
    sumInts? (bs.map Cell.bit) = some (Int64.ofNat (bs.count true)) := by
  have hcount : ∀ n, (bs.take n).count true < 2 ^ 63 := fun n =>
    Nat.lt_of_le_of_lt (List.count_le_length.trans (List.length_take_le' n bs)) h
  refine foldlM_add?_eq_some.mpr ⟨fun k _ => ?_, ?_⟩
  · have hprefix := hcount k
    rw [← List.map_take, exactSum_bits, Int64.toInt_zero, InRange]
    omega
  · rw [exactSum_bits, Int64.toInt_zero, Int.zero_add]
    exact Int64.toInt_ofNat_of_lt (Nat.lt_of_le_of_lt List.count_le_length h)

/-- Too few bits to wrap around are added up as they would be with a check. -/
theorem runningInts?_bits {bs : List Bool} (hlow : 0 ≤ total.toInt)
    (hhigh : total.toInt + bs.length < 2 ^ 63) :
    runningInts? total (bs.map Cell.bit) =
      some (running (fun n b => n + Cell.bit b) total bs) := by
  induction bs generalizing total with
  | nil => rfl
  | cons b bs ih =>
      have hbit : 0 ≤ (Cell.bit b).toInt ∧ (Cell.bit b).toInt ≤ 1 := by
        cases b <;> decide
      rw [List.length_cons] at hhigh
      -- the rows still to come leave room for this bit
      have hfits : InRange (total.toInt + (Cell.bit b).toInt) := by
        rw [InRange]
        omega
      have hsum : (total + Cell.bit b).toInt = total.toInt + (Cell.bit b).toInt := by
        rw [Int64.toInt_add, bmod_eq_self hfits]
      have hrest := @ih (total + Cell.bit b) (by omega) (by omega)
      exact runningInts?_cons.mpr ⟨_, _, add?_eq_some.mpr hsum, hrest, rfl⟩

end Reducer

/-! ## Columns -/

namespace Column

/-- The integers that a column stands for in a sum, truth values being 1 and 0. -/
def integers (c : Column) : List Int64 := c.cells.filterMap Cell.int?

/-- The first rows of a column. -/
def front (n : Nat) (c : Column) : Column := c.reshape fun xs => xs.take n

theorem integers_ints (xs : List Int64) : (ints xs).integers = xs := by
  rw [integers, cells, List.filterMap_map]
  exact List.filterMap_some

theorem integers_bools (bs : List Bool) : (bools bs).integers = bs.map Cell.bit := by
  rw [integers, cells, List.filterMap_map, ← List.filterMap_eq_map]
  rfl

/-- The columns that have an exact sum. -/
def IsWhole (c : Column) : Prop := c.type = .int ∨ c.type = .bool

variable {c : Column}

theorem IsWhole.cases (h : c.IsWhole) : (∃ xs, c = .ints xs) ∨ ∃ bs, c = .bools bs := by
  cases c with
  | ints xs => exact .inl ⟨xs, rfl⟩
  | bools bs => exact .inr ⟨bs, rfl⟩
  | floats xs | strs xs => rcases h with h | h <;> cases h

theorem IsWhole.length_integers (h : c.IsWhole) : c.integers.length = c.length := by
  obtain ⟨xs, rfl⟩ | ⟨bs, rfl⟩ := h.cases
  · rw [integers_ints]
    rfl
  · rw [integers_bools, List.length_map]
    rfl

theorem length_front_le (n : Nat) (c : Column) : (c.front n).length ≤ c.length := by
  cases c <;> exact List.length_take_le' n _

theorem front_length (c : Column) : c.front c.length = c := by
  cases c with
  | ints xs => exact congrArg ints List.take_length
  | floats xs => exact congrArg floats List.take_length
  | bools bs => exact congrArg bools List.take_length
  | strs xs => exact congrArg strs List.take_length

theorem IsWhole.front (h : c.IsWhole) (n : Nat) : (c.front n).IsWhole := by
  obtain ⟨xs, rfl⟩ | ⟨bs, rfl⟩ := h.cases
  · exact .inl rfl
  · exact .inr rfl

theorem IsWhole.integers_front (h : c.IsWhole) (n : Nat) :
    (c.front n).integers = c.integers.take n := by
  obtain ⟨xs, rfl⟩ | ⟨bs, rfl⟩ := h.cases
  · rw [integers_ints]
    exact integers_ints _
  · rw [integers_bools, ← List.map_take]
    exact integers_bools _

end Column

namespace Reducer

variable {c : Column}

/-- Few enough truth values are summed as integers are. -/
theorem sum_eq (hc : c.IsWhole) (hlen : c.length < 2 ^ 63) : sum c = sum (.ints c.integers) := by
  obtain ⟨xs, rfl⟩ | ⟨bs, rfl⟩ := hc.cases
  · rw [Column.integers_ints]
  · rw [Column.integers_bools, sum, sum, sumInts?_bits hlen]

theorem cumsum_eq (hc : c.IsWhole) (hlen : c.length < 2 ^ 63) :
    cumsum c = cumsum (.ints c.integers) := by
  obtain ⟨xs, rfl⟩ | ⟨bs, rfl⟩ := hc.cases
  · rw [Column.integers_ints]
  · have hbits : runningInts? 0 (bs.map Cell.bit) = _ :=
      runningInts?_bits (Int.le_refl 0) (by
        rw [Int64.toInt_zero, Int.zero_add]
        exact_mod_cast hlen)
    rw [Column.integers_bools, cumsum, cumsum, hbits]

theorem sum_ints_eq_ok {xs : List Int64} {v : Cell} :
    sum (.ints xs) = .ok v ↔ ∃ n, sumInts? xs = some n ∧ .int n = v := by
  rw [sum]
  cases sumInts? xs with
  | none => simp
  | some n => simp

theorem cumsum_ints_eq_ok {xs : List Int64} {sums : Column} :
    cumsum (.ints xs) = .ok sums ↔ ∃ ns, runningInts? 0 xs = some ns ∧ .ints ns = sums := by
  rw [cumsum]
  cases runningInts? 0 xs with
  | none => simp
  | some ns => simp

theorem sum_succeeds (hc : c.IsWhole) (hlen : c.length < 2 ^ 63) :
    (∃ v, sum c = .ok v) ↔ PrefixesFit 0 c.integers := by
  rw [← Int64.toInt_zero, ← exists_foldlM_add?]
  simp only [sum_eq hc hlen, sum_ints_eq_ok]
  constructor
  · rintro ⟨_, n, hn, _⟩
    exact ⟨n, hn⟩
  · rintro ⟨n, hn⟩
    exact ⟨_, n, hn, rfl⟩

theorem cumsum_succeeds (hc : c.IsWhole) (hlen : c.length < 2 ^ 63) :
    (∃ sums, cumsum c = .ok sums) ↔ PrefixesFit 0 c.integers := by
  rw [← Int64.toInt_zero, ← exists_runningInts?]
  simp only [cumsum_eq hc hlen, cumsum_ints_eq_ok]
  constructor
  · rintro ⟨_, ns, hns, _⟩
    exact ⟨ns, hns⟩
  · rintro ⟨ns, hns⟩
    exact ⟨_, ns, hns, rfl⟩

/-- Both have one way to fail. -/
theorem overflow_of_not_prefixesFit (hc : c.IsWhole) (hlen : c.length < 2 ^ 63)
    (h : ¬PrefixesFit 0 c.integers) :
    sum c = .error .sumOverflow ∧ cumsum c = .error .cumsumOverflow := by
  rw [← Int64.toInt_zero] at h
  have hsum := mt exists_foldlM_add?.mp h
  have hsums := mt exists_runningInts?.mp h
  rw [← Option.isSome_iff_exists, Option.not_isSome_iff_eq_none] at hsum hsums
  rw [sum_eq hc hlen, cumsum_eq hc hlen, sum, cumsum, sumInts?, hsum, hsums]
  exact ⟨rfl, rfl⟩

theorem sum_exact (hc : c.IsWhole) (hlen : c.length < 2 ^ 63) {v : Cell} (h : sum c = .ok v) :
    ∃ n : Int64, v = .int n ∧ n.toInt = exactSum c.integers := by
  rw [sum_eq hc hlen, sum_ints_eq_ok] at h
  obtain ⟨n, hn, rfl⟩ := h
  obtain ⟨_, htotal⟩ := foldlM_add?_eq_some.mp hn
  rw [Int64.toInt_zero, Int.zero_add] at htotal
  exact ⟨n, rfl, htotal⟩

/-- There is a running sum for each row, and it is the sum of the rows up to this one. -/
theorem cumsum_at (hc : c.IsWhole) (hlen : c.length < 2 ^ 63) {sums : Column}
    (h : cumsum c = .ok sums) :
    sums.type = .int ∧ sums.length = c.length ∧
      ∀ k < c.length, ∃ v, sums.get? k = some v ∧ sum (c.front (k + 1)) = .ok v := by
  rw [cumsum_eq hc hlen, cumsum_ints_eq_ok] at h
  obtain ⟨ns, hns, rfl⟩ := h
  obtain ⟨hcount, hat⟩ := getElem?_runningInts? hns
  rw [hc.length_integers] at hcount hat
  refine ⟨rfl, hcount, fun k hk => ?_⟩
  obtain ⟨n, hn⟩ : ∃ n, ns[k]? = some n := ⟨_, List.getElem?_eq_getElem (hcount.symm ▸ hk)⟩
  have hfront : (c.front (k + 1)).length < 2 ^ 63 :=
    Nat.lt_of_le_of_lt (Column.length_front_le _ c) hlen
  refine ⟨.int n, ?_, ?_⟩
  · rw [Column.get?, Column.cells, List.getElem?_map, hn]
    rfl
  · rw [sum_eq (hc.front _) hfront, hc.integers_front, sum_ints_eq_ok]
    exact ⟨n, (hat k hk).symm.trans hn, rfl⟩

/-- Sums and running sums of integers, and of truth values as ones and zeros, agree. The
one is there exactly if the other is, which is exactly if the exact sums of all prefixes
are in range; otherwise both report an overflow. The sum is then the exact one, and so
are the running sums: there is one for each row, the sum of the rows up to this one, and
the last of them is the sum of all. -/
theorem sum_cumsum {c : Column} (hc : c.IsWhole) (hlen : c.length < 2 ^ 63) :
    ((∃ sums, cumsum c = .ok sums) ↔ ∃ v, sum c = .ok v) ∧
    ((∃ v, sum c = .ok v) ↔
      ∀ k ≤ c.length, InRange (exactSum (c.front k).integers)) ∧
    ((¬∃ v, sum c = .ok v) → sum c = .error .sumOverflow ∧ cumsum c = .error .cumsumOverflow) ∧
    (∀ v, sum c = .ok v → ∃ n : Int64, v = .int n ∧ n.toInt = exactSum c.integers) ∧
    (c.length = 0 → sum c = .ok (.int 0)) ∧
    ∀ sums, cumsum c = .ok sums → sums.type = .int ∧ sums.length = c.length ∧
      (∀ k < c.length, ∃ v, sums.get? k = some v ∧ sum (c.front (k + 1)) = .ok v) ∧
      (0 < c.length → ∃ v, sums.get? (c.length - 1) = some v ∧ sum c = .ok v) := by
  have hsum := sum_succeeds hc hlen
  have hfits : PrefixesFit 0 c.integers ↔
      ∀ k ≤ c.length, InRange (exactSum (c.front k).integers) := by
    simp only [PrefixesFit, hc.integers_front, hc.length_integers, Int.zero_add]
  refine ⟨(cumsum_succeeds hc hlen).trans hsum.symm, hsum.trans hfits, ?_, ?_, ?_, ?_⟩
  · intro hnone
    exact overflow_of_not_prefixesFit hc hlen (mt hsum.mpr hnone)
  · intro v hv
    exact sum_exact hc hlen hv
  · intro hempty
    have hnone : c.integers = [] := by
      rw [← List.length_eq_zero_iff, hc.length_integers, hempty]
    rw [sum_eq hc hlen, hnone]
    rfl
  · intro sums hsums
    obtain ⟨htype, hcount, hat⟩ := cumsum_at hc hlen hsums
    refine ⟨htype, hcount, hat, fun hpos => ?_⟩
    have hlast := hat (c.length - 1) (by omega)
    rwa [Nat.sub_add_cancel hpos, Column.front_length] at hlast

/-- The greatest integer and then a step back and forth, or a step too far and back. -/
theorem sum_cumsum_edge :
    (∃ v, sum (.ints [9223372036854775807, -1, 1]) = .ok v ∧
      Column.get? (.ints [9223372036854775807, 9223372036854775806, 9223372036854775807]) 2 =
        some v) ∧
    sum (.ints [9223372036854775807, 1, -1]) = .error .sumOverflow ∧
      cumsum (.ints [9223372036854775807, 1, -1]) = .error .cumsumOverflow := by
  have hback := sum_cumsum (c := .ints [9223372036854775807, -1, 1]) (.inl rfl) (by decide)
  have hfar := sum_cumsum (c := .ints [9223372036854775807, 1, -1]) (.inl rfl) (by decide)
  obtain ⟨_, _, _, _, _, hsums⟩ := hback
  obtain ⟨_, _, _, hlast⟩ :=
    hsums (.ints [9223372036854775807, 9223372036854775806, 9223372036854775807]) rfl
  obtain ⟨v, hv, hsum⟩ := hlast (by decide)
  obtain ⟨_, hfits, hfails, _⟩ := hfar
  have hnone : ¬∃ v, sum (.ints [9223372036854775807, 1, -1]) = .ok v := fun hsome =>
    absurd (hfits.mp hsome 2 (by decide)).2 (by decide)
  exact ⟨⟨v, hsum, hv⟩, hfails hnone⟩

end Reducer

end TableVerbs
