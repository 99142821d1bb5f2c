import Mathlib
import TableVerbs.Proofs.CellOrder
import TableVerbs.Proofs.Grouping

/-!
# Equal cells have equal fingerprints

Rows are grouped by the order of their keys, and repeated rows are found by
fingerprints, which are compared as they are. Both see the same rows as equal if
cells have one fingerprint exactly when the order holds them equal. For floats this
is not so of the bits alone: the zeros differ in theirs, and so would NaNs. The
fingerprint takes the bits of a number that stands for its equals, and the order
does not tell a number from the one that stands for it; the rest is transitivity.
-/

namespace TableVerbs

namespace Number

/-- The float that stands for a float among its equals. -/
def representative (x : Float) : Float :=
  if x.isNaN then 0.0 / 0.0 else if x == 0.0 then 0.0 else x

theorem canonicalBits_eq (x : Float) : canonicalBits x = (representative x).toBits := by
  rw [canonicalBits, representative]
  split
  · rfl
  · split <;> rfl

theorem order_eq_iff_beq {a b : Float} (ha : a.isNaN = false) (hb : b.isNaN = false) :
    order a b = .eq ↔ (a == b) = true := by
  rw [order_eq_orderPlaces, beq_iff_unpack, compare_eq_orderPlaces ha hb, Option.some.injEq]

theorem order_representative (x : Float) : order x (representative x) = .eq := by
  rw [representative]
  split
  · next hnan =>
      have hmissing : (0.0 / 0.0 : Float).isNaN = true := by decide +kernel
      rw [order, hnan, hmissing]
  · next hnan =>
      split
      · next hzero =>
          have hnumber : (0.0 : Float).isNaN = false := by decide +kernel
          exact (order_eq_iff_beq (Bool.eq_false_iff.mpr hnan) hnumber).mpr hzero
      · exact Std.ReflCmp.compare_self

theorem canonicalBits_of_beq {a b : Float} (h : (a == b) = true) :
    canonicalBits a = canonicalBits b := by
  have hzeros : canonicalBits 0 = canonicalBits (-0) := by decide +kernel
  obtain ⟨_, _, rfl | ⟨rfl, rfl⟩ | ⟨rfl, rfl⟩⟩ := Float.beq_iff_ne_nan_and_eq.mp h
  · rfl
  · exact hzeros
  · exact hzeros.symm

theorem canonicalBits_eq_iff {a b : Float} :
    canonicalBits a = canonicalBits b ↔ order a b = .eq := by
  constructor
  · intro h
    rw [canonicalBits_eq, canonicalBits_eq, Float.toBits_inj] at h
    have hb := Std.OrientedCmp.eq_symm (order_representative b)
    rw [← h] at hb
    exact Std.TransCmp.eq_trans (order_representative a) hb
  · intro h
    cases ha : a.isNaN with
    | true =>
        cases hb : b.isNaN with
        | true => rw [canonicalBits, canonicalBits, if_pos ha, if_pos hb]
        | false =>
            rw [order, ha, hb] at h
            cases h
    | false =>
        cases hb : b.isNaN with
        | true =>
            rw [order, ha, hb] at h
            cases h
        | false => exact canonicalBits_of_beq ((order_eq_iff_beq ha hb).mp h)

end Number

namespace Cell

theorem fingerprint_eq_iff {a b : Cell} : a.fingerprint = b.fingerprint ↔ order a b = .eq := by
  cases a with
  | int x =>
      cases b with
      | int y => simp only [fingerprint, order, Fingerprint.int.injEq, Std.compare_eq_iff_eq]
      | float y | bool y | str y => exact iff_of_false (by simp [fingerprint]) (by rintro ⟨⟩)
  | float x =>
      cases b with
      | float y =>
          simp only [fingerprint, order, Fingerprint.float.injEq, Number.canonicalBits_eq_iff]
      | int y | bool y | str y => exact iff_of_false (by simp [fingerprint]) (by rintro ⟨⟩)
  | bool x =>
      cases b with
      | bool y => simp only [fingerprint, order, Fingerprint.bool.injEq, Std.compare_eq_iff_eq]
      | int y | float y | str y => exact iff_of_false (by simp [fingerprint]) (by rintro ⟨⟩)
  | str x =>
      cases b with
      | str y => simp only [fingerprint, order, Fingerprint.str.injEq, Std.compare_eq_iff_eq]
      | int y | float y | bool y => exact iff_of_false (by simp [fingerprint]) (by rintro ⟨⟩)

theorem fingerprints_eq_iff {as bs : List Cell} :
    as.map fingerprint = bs.map fingerprint ↔ sameKey as bs = true := by
  rw [sameKey_iff]
  induction as generalizing bs with
  | nil =>
      cases bs with
      | nil => exact iff_of_true rfl rfl
      | cons b bs => exact iff_of_false (by simp) (by simp [orderKeys])
  | cons a as ih =>
      cases bs with
      | nil => exact iff_of_false (by simp) (by simp [orderKeys])
      | cons b bs =>
          rw [List.map_cons, List.map_cons, List.cons_eq_cons, fingerprint_eq_iff, ih, orderKeys,
            Ordering.then_eq_eq]

end Cell

end TableVerbs
