import Mathlib.Tactic.SplitIfs
import TableVerbs.Column

/-!
# A column and its cells

Columns come in four constructors, and a proof that splits on them says
everything four times. Most of what is true of columns can be said through two
views instead, the type and the cells: there are as many cells as values, they
all have the column's type, and a column made of cells has the type that they
share. After that the constructors rarely have to be looked at again.
-/

namespace TableVerbs.Column

@[simp] theorem length_cells (c : Column) : c.cells.length = c.length := by
  cases c <;> exact List.length_map _

theorem type_of_mem_cells {c : Column} {v : Cell} (h : v ∈ c.cells) : v.type = c.type := by
  cases c with
  | ints xs | floats xs | bools xs | strs xs =>
      obtain ⟨x, _, rfl⟩ := List.mem_map.mp h
      rfl

@[simp] theorem length_replicate (n : Nat) (v : Cell) : (replicate n v).length = n := by
  cases v <;> exact List.length_replicate

/-! ## A column of loose cells

`ofCells` tries the types one after another. Apart from having a first success
this is two things, finding the type and reading every cell as that type, and
reading leaves no cell out where the type was found. -/

/-- The type that a column of some cells has. -/
def common? (cells : List Cell) : Option CellType :=
  if cells.all (·.type == .int) then some .int
  else if cells.all isNumber then some .float
  else if cells.all (·.type == .bool) then some .bool
  else if cells.all (·.type == .str) then some .str
  else none

/-- The cells that can be read as a type, as a column of it. -/
def readAs (cells : List Cell) : CellType → Column
  | .int => .ints (cells.filterMap Cell.int?)
  | .float => .floats (cells.filterMap Cell.float?)
  | .bool => .bools (cells.filterMap Cell.bool?)
  | .str => .strs (cells.filterMap Cell.str?)

/-- Whether a cell can be read as a type. -/
def fitsType (v : Cell) : CellType → Bool
  | .int => v.int?.isSome
  | .float => v.float?.isSome
  | .bool => v.bool?.isSome
  | .str => v.str?.isSome

theorem ofCells_eq {cells : List Cell} (h : cells ≠ []) :
    ofCells cells = match common? cells with
      | some type => .ok (readAs cells type)
      | none => .error .mixedCells := by
  rw [ofCells, if_neg (by rwa [List.isEmpty_iff]), common?]
  by_cases hint : cells.all (·.type == .int)
  · rw [if_pos hint, if_pos hint]
    rfl
  rw [if_neg hint, if_neg hint]
  by_cases hnumber : cells.all isNumber
  · rw [if_pos hnumber, if_pos hnumber]
    rfl
  rw [if_neg hnumber, if_neg hnumber]
  by_cases hbool : cells.all (·.type == .bool)
  · rw [if_pos hbool, if_pos hbool]
    rfl
  rw [if_neg hbool, if_neg hbool]
  by_cases hstr : cells.all (·.type == .str)
  · rw [if_pos hstr, if_pos hstr]
    rfl
  · rw [if_neg hstr, if_neg hstr]

theorem fitsType_of_common? {cells : List Cell} {type : CellType} (h : common? cells = some type) :
    ∀ v ∈ cells, fitsType v type := by
  intro v hv
  have hall : ∀ {test : Cell → Bool}, cells.all test = true → test v = true :=
    fun ht => List.all_eq_true.mp ht v hv
  simp only [common?] at h
  split_ifs at h with hint hnumber hbool hstr
  · cases h
    cases v <;> first | rfl | cases hall hint
  · cases h
    cases v <;> first | rfl | cases hall hnumber
  · cases h
    cases v <;> first | rfl | cases hall hbool
  · cases h
    cases v <;> first | rfl | cases hall hstr

@[simp] theorem type_readAs (cells : List Cell) (type : CellType) :
    (readAs cells type).type = type := by
  cases type <;> rfl

/-- What is asked of the type of cells that share one is asked of that type. -/
theorem all_of_type {cells : List Cell} {type : CellType} (hne : cells ≠ [])
    (h : ∀ v ∈ cells, v.type = type) (test : CellType → Bool) :
    cells.all (fun v => test v.type) = test type := by
  rw [Bool.eq_iff_iff, List.all_eq_true]
  constructor
  · intro htest
    obtain ⟨v, rest, rfl⟩ := List.exists_cons_of_ne_nil hne
    exact h v List.mem_cons_self ▸ htest v List.mem_cons_self
  · intro htest v hv
    rw [h v hv]
    exact htest

theorem length_readAs {cells : List Cell} {type : CellType} (h : ∀ v ∈ cells, fitsType v type) :
    (readAs cells type).length = cells.length := by
  cases type with
  | int | float | bool | str => exact List.filterMap_length_eq_length.mpr h

end TableVerbs.Column
