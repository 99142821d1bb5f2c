import TableVerbs.Csv.Typing
import TableVerbs.Proofs.ColumnCells
import TableVerbs.Proofs.NumberTexts

/-!
# The type that the fields of a column show

A column of fields is typed by what all of them can be read as, so one field that
cannot be read as an integer keeps the others from being read as integers, and the
same for floats and for truth values. The integers come first. Texts of integers
are read as integers, texts of truth values as nothing before that, and any texts
are kept as they are if something among them is no number and something no truth
value.
-/

namespace TableVerbs

theorem mapM_eq_some {α β : Type} {f : α → Option β} {xs : List α} {ys : List β}
    (h : xs.map f = ys.map some) : xs.mapM f = some ys := by
  induction xs generalizing ys with
  | nil =>
      cases ys with
      | nil => rfl
      | cons y ys => cases h
  | cons x xs ih =>
      cases ys with
      | nil => cases h
      | cons y ys =>
          obtain ⟨hx, hxs⟩ := List.cons.inj h
          rw [List.mapM_cons, hx, ih hxs]
          rfl

theorem mapM_eq_none {α β : Type} {f : α → Option β} {xs : List α} {x : α} (hx : x ∈ xs)
    (h : f x = none) : xs.mapM f = none := by
  induction xs with
  | nil => cases hx
  | cons y ys ih =>
      rw [List.mapM_cons]
      rcases List.mem_cons.mp hx with rfl | hx
      · rw [h]
        rfl
      · rw [ih hx]
        cases f y <;> rfl

theorem exists_map_some {α β : Type} {f : α → Option β} {xs : List α}
    (h : ∀ x ∈ xs, ∃ y, f x = some y) : ∃ ys : List β, xs.map f = ys.map some := by
  induction xs with
  | nil => exact ⟨[], rfl⟩
  | cons x xs ih =>
      obtain ⟨⟨y, hy⟩, hxs⟩ := List.forall_mem_cons.mp h
      obtain ⟨ys, hys⟩ := ih hxs
      exact ⟨y :: ys, by rw [List.map_cons, hy, hys, List.map_cons]⟩

theorem length_of_mapM_some {α β : Type} {f : α → Option β} {xs : List α} {ys : List β}
    (h : xs.mapM f = some ys) : ys.length = xs.length := by
  induction xs generalizing ys with
  | nil =>
      cases h
      rfl
  | cons x xs ih =>
      rw [List.mapM_cons] at h
      obtain ⟨y, _, h⟩ := Option.bind_eq_some_iff.mp h
      obtain ⟨rest, hrest, h⟩ := Option.bind_eq_some_iff.mp h
      cases h
      rw [List.length_cons, List.length_cons, ih hrest]

/-! ## Blanks -/

namespace Text

/-- No visible character of ASCII is blank. -/
theorem isBlank_of_visible {c : Char} (h : 0x20 < c.toNat) (h' : c.toNat < 0x7F) :
    isBlank c = false := by
  simp [isBlank, blankRanges, Ranges.has]
  omega

theorem isBlank_of_isDigit {c : Char} (h : c.isDigit = true) : isBlank c = false := by
  simp only [Char.isDigit, Bool.and_eq_true, decide_eq_true_eq, UInt32.le_iff_toNat_le] at h
  exact isBlank_of_visible (Nat.lt_of_lt_of_le (by decide) h.1) (Nat.lt_of_le_of_lt h.2 (by decide))

theorem trimmed_of_visible {cs : List Char} (h : ∀ c ∈ cs, isBlank c = false) :
    trimmed cs = cs := by
  have hdrop : ∀ ds : List Char, (∀ c ∈ ds, isBlank c = false) → ds.dropWhile isBlank = ds := by
    intro ds hds
    cases ds with
    | nil => rfl
    | cons d ds => exact List.dropWhile_cons_of_neg (by rw [hds d List.mem_cons_self]; decide)
  rw [trimmed, hdrop cs h, hdrop cs.reverse fun c hc => h c (List.mem_reverse.mp hc),
    List.reverse_reverse]

end Text
namespace Csv

/-! ## Fields -/

/-- A field read as an integer, blanks around it aside. -/
@[irreducible] def intField? (s : String) : Option Int64 := Decimal.readInt? (Text.trimmed s.toList)

/-- A field read as a float. -/
@[irreducible] def floatField? (s : String) : Option Float :=
  Decimal.readFloat? (Text.trimmed s.toList)

/-- A field read as a truth value. -/
@[irreducible] def boolField? (s : String) : Option Bool := readBool? (Text.trimmed s.toList)

theorem mapM_trimmed {β : Type} {read : List Char → Option β} {field? : String → Option β}
    (h : ∀ s, field? s = read (Text.trimmed s.toList)) (fields : List String) :
    (fields.map fun s => Text.trimmed s.toList).mapM read = fields.mapM field? := by
  rw [funext h]
  exact List.mapM_map

theorem typed_eq (fields : List String) :
    typed fields =
      match fields.mapM intField?, fields.mapM floatField?, fields.mapM boolField? with
      | some ints, _, _ => .ints ints
      | none, some floats, _ => .floats floats
      | none, none, some bools => .bools bools
      | none, none, none => .strs fields := by
  have hint := mapM_trimmed (fun s => by rw [intField?] : ∀ s, intField? s = _) fields
  have hfloat := mapM_trimmed (fun s => by rw [floatField?] : ∀ s, floatField? s = _) fields
  have hbool := mapM_trimmed (fun s => by rw [boolField?] : ∀ s, boolField? s = _) fields
  rw [← hint, ← hfloat, ← hbool]
  rfl

section

variable {fields : List String}

theorem typed_ints {xs : List Int64} (h : fields.map intField? = xs.map some) :
    typed fields = .ints xs := by
  rw [typed_eq, mapM_eq_some h]

theorem typed_floats {s : String} (hs : s ∈ fields) (hint : intField? s = none) {xs : List Float}
    (h : fields.map floatField? = xs.map some) : typed fields = .floats xs := by
  rw [typed_eq, mapM_eq_none hs hint, mapM_eq_some h]

theorem intField?_eq_none {s : String} (h : floatField? s = none) : intField? s = none := by
  cases hint : intField? s with
  | none => rfl
  | some v =>
      rw [intField?] at hint
      obtain ⟨x, hx⟩ := Decimal.readFloat?_of_readInt? hint
      rw [floatField?, hx] at h
      cases h

theorem typed_bools {s : String} (hs : s ∈ fields) (hfloat : floatField? s = none)
    {xs : List Bool} (h : fields.map boolField? = xs.map some) : typed fields = .bools xs := by
  rw [typed_eq, mapM_eq_none hs (intField?_eq_none hfloat), mapM_eq_none hs hfloat,
    mapM_eq_some h]

theorem typed_strs {s s' : String} (hs : s ∈ fields) (hfloat : floatField? s = none)
    (hs' : s' ∈ fields) (hbool : boolField? s' = none) : typed fields = .strs fields := by
  rw [typed_eq, mapM_eq_none hs (intField?_eq_none hfloat), mapM_eq_none hs hfloat,
    mapM_eq_none hs' hbool]

theorem length_typed (fields : List String) : (typed fields).length = fields.length := by
  rw [typed_eq]
  cases hints : fields.mapM intField? with
  | some ints => exact length_of_mapM_some hints
  | none =>
      cases hfloats : fields.mapM floatField? with
      | some floats => exact length_of_mapM_some hfloats
      | none =>
          cases hbools : fields.mapM boolField? with
          | some bools => exact length_of_mapM_some hbools
          | none => rfl

end

/-! ## Texts of cells -/

/-- The texts of a column's cells. -/
def texts (c : Column) : List String := c.cells.map Cell.text

theorem length_texts (c : Column) : (texts c).length = c.length :=
  (List.length_map _).trans c.length_cells

theorem trimmed_toString (v : Int64) :
    Text.trimmed (toString v.toInt).toList = (toString v.toInt).toList := by
  refine Text.trimmed_of_visible fun c hc => ?_
  rcases Decimal.isDigit_of_readInt? (Decimal.readInt?_toString v) c hc with rfl | rfl | hdigit
  · exact Text.isBlank_of_visible (by decide) (by decide)
  · exact Text.isBlank_of_visible (by decide) (by decide)
  · exact Text.isBlank_of_isDigit hdigit

theorem intField?_text (v : Int64) : intField? (Cell.int v).text = some v := by
  rw [intField?, Cell.text, trimmed_toString, Decimal.readInt?_toString]

theorem typed_texts_ints (xs : List Int64) : typed (texts (.ints xs)) = .ints xs := by
  refine typed_ints ?_
  rw [texts, Column.cells, List.map_map, List.map_map]
  exact List.map_congr_left fun v _ => intField?_text v

theorem typed_texts_bools {xs : List Bool} (hne : xs ≠ []) :
    typed (texts (.bools xs)) = .bools xs := by
  have hread : ∀ b, floatField? (Cell.bool b).text = none ∧
      boolField? (Cell.bool b).text = some b := by
    intro b
    rw [floatField?, boolField?]
    revert b
    decide +kernel
  obtain ⟨b, rest, rfl⟩ := List.exists_cons_of_ne_nil hne
  refine typed_bools List.mem_cons_self (hread b).1 ?_
  show (((b :: rest).map Cell.bool).map Cell.text).map boolField? = (b :: rest).map some
  rw [List.map_map, List.map_map]
  exact List.map_congr_left fun b _ => (hread b).2

theorem texts_strs (xs : List String) : texts (.strs xs) = xs := by
  show (xs.map Cell.str).map Cell.text = xs
  rw [List.map_map]
  exact List.map_id xs

end Csv

end TableVerbs
