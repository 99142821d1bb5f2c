import Mathlib.Data.List.Forall2
import TableVerbs.Proofs.ColumnCells
import TableVerbs.Proofs.Lookup
import TableVerbs.Table.Rows

/-!
# Picking positions of a list

Picking rows by position is the same rearrangement of every list of a table,
its columns and its labels, so what is true of it is proved once about lists.
Three things are wanted of it: picking goes through whatever works member by
member, a pick within bounds has as many members as it has positions, and a
pick of all positions in some order has the members of the list in some order.
-/

namespace TableVerbs

variable {α β γ : Type}

/-- The members of a list at these positions. -/
def pick (positions : List Nat) (xs : List α) : List α :=
  positions.filterMap fun p => xs[p]?

theorem pick_cons_of_lt {i : Nat} {positions : List Nat} {xs : List α} (h : i < xs.length) :
    pick (i :: positions) xs = xs[i] :: pick positions xs := by
  rw [pick, List.filterMap_cons, List.getElem?_eq_getElem h]
  rfl

theorem pick_cons_of_le {i : Nat} {positions : List Nat} {xs : List α} (h : xs.length ≤ i) :
    pick (i :: positions) xs = pick positions xs := by
  rw [pick, List.filterMap_cons, List.getElem?_eq_none h]
  rfl

theorem mem_pick {positions : List Nat} {xs : List α} {x : α} :
    x ∈ pick positions xs ↔ ∃ i ∈ positions, xs[i]? = some x :=
  List.mem_filterMap

theorem mem_of_mem_pick {positions : List Nat} {xs : List α} {x : α}
    (h : x ∈ pick positions xs) : x ∈ xs := by
  obtain ⟨i, _, hi⟩ := mem_pick.mp h
  exact List.mem_of_getElem? hi

/-- A pick within bounds leaves nothing out. -/
theorem length_pick {positions : List Nat} {xs : List α} (h : ∀ i ∈ positions, i < xs.length) :
    (pick positions xs).length = positions.length := by
  induction positions with
  | nil => rfl
  | cons i rest ih =>
      obtain ⟨hi, hrest⟩ := List.forall_mem_cons.mp h
      rw [pick_cons_of_lt hi, List.length_cons, List.length_cons, ih hrest]

/-- Rows that all have one value have it in any order. -/
theorem pick_replicate {positions : List Nat} {n : Nat} (h : ∀ i ∈ positions, i < n) (x : α) :
    pick positions (List.replicate n x) = List.replicate positions.length x := by
  refine List.eq_replicate_iff.mpr ⟨?_, fun y hy => List.eq_of_mem_replicate (mem_of_mem_pick hy)⟩
  exact length_pick (by rwa [List.length_replicate])

/-- How many are picked is settled by how many there are. -/
theorem length_pick_congr {xs : List α} {ys : List β} (h : xs.length = ys.length)
    (positions : List Nat) : (pick positions xs).length = (pick positions ys).length := by
  induction positions with
  | nil => rfl
  | cons i rest ih =>
      rcases Nat.lt_or_ge i xs.length with hi | hi
      · rw [pick_cons_of_lt hi, pick_cons_of_lt (h ▸ hi), List.length_cons, List.length_cons, ih]
      · rw [pick_cons_of_le hi, pick_cons_of_le (h ▸ hi), ih]

theorem pick_map (f : α → β) (positions : List Nat) (xs : List α) :
    pick positions (xs.map f) = (pick positions xs).map f := by
  simp only [pick, List.getElem?_map, List.map_filterMap]

theorem pick_zip {positions : List Nat} {xs : List α} {ys : List β} (h : xs.length = ys.length) :
    pick positions (xs.zip ys) = (pick positions xs).zip (pick positions ys) := by
  induction positions with
  | nil => rfl
  | cons i rest ih =>
      have hz : (xs.zip ys).length = xs.length := by
        rw [List.length_zip, h, Nat.min_self]
      rcases Nat.lt_or_ge i xs.length with hi | hi
      · rw [pick_cons_of_lt (hz ▸ hi), pick_cons_of_lt hi, pick_cons_of_lt (h ▸ hi), ih,
          List.getElem_zip]
        rfl
      · rw [pick_cons_of_le (hz ▸ hi), pick_cons_of_le hi, pick_cons_of_le (h ▸ hi), ih]

/-- Related lists stay related under one pick. -/
theorem pick_forall₂ {r : α → β → Prop} {xs : List α} {ys : List β} (h : List.Forall₂ r xs ys)
    (positions : List Nat) : List.Forall₂ r (pick positions xs) (pick positions ys) := by
  induction positions with
  | nil => exact .nil
  | cons i rest ih =>
      rcases Nat.lt_or_ge i xs.length with hi | hi
      · have hi' : i < ys.length := h.length_eq ▸ hi
        rw [pick_cons_of_lt hi, pick_cons_of_lt hi']
        exact .cons (h.get hi hi') ih
      · have hi' : ys.length ≤ i := h.length_eq ▸ hi
        rw [pick_cons_of_le hi, pick_cons_of_le hi']
        exact ih

/-- A filter that lets every member pass keeps the positions in place. -/
theorem pick_filterMap {f : α → Option β} {xs : List α} (h : ∀ x ∈ xs, (f x).isSome)
    (positions : List Nat) : pick positions (xs.filterMap f) = (pick positions xs).filterMap f := by
  have hget : ∀ (ys : List α), (∀ y ∈ ys, (f y).isSome) → ∀ i : Nat,
      (ys.filterMap f)[i]? = ys[i]?.bind f := by
    intro ys
    induction ys with
    | nil => exact fun _ _ => rfl
    | cons y rest ih =>
        intro hys i
        obtain ⟨hy, hrest⟩ := List.forall_mem_cons.mp hys
        obtain ⟨z, hz⟩ := Option.isSome_iff_exists.mp hy
        rw [List.filterMap_cons, hz]
        cases i with
        | zero => exact hz.symm
        | succ i => exact ih hrest i
  simp only [pick, hget xs h, List.filterMap_filterMap]

/-! ## Picking every position once -/

theorem pick_range (xs : List α) : pick (List.range xs.length) xs = xs := by
  induction xs with
  | nil => rfl
  | cons x rest ih =>
      rw [List.length_cons, List.range_succ_eq_map, pick_cons_of_lt (Nat.zero_lt_succ _)]
      rw [pick, List.filterMap_map]
      exact congrArg (x :: ·) ih

/-- Picking all positions in some order only changes the order. -/
theorem pick_perm {positions : List Nat} {xs : List α}
    (h : positions.Perm (List.range xs.length)) : (pick positions xs).Perm xs := by
  have hperm : (pick positions xs).Perm (pick (List.range xs.length) xs) := h.filterMap _
  rwa [pick_range] at hperm

/-! ## Columns -/

@[simp] theorem Column.type_take (positions : List Nat) (c : Column) :
    (c.take positions).type = c.type := by
  cases c <;> rfl

theorem Column.cells_take (positions : List Nat) (c : Column) :
    (c.take positions).cells = pick positions c.cells := by
  cases c <;> exact (pick_map _ positions _).symm

theorem Column.length_take {positions : List Nat} {c : Column}
    (h : ∀ i ∈ positions, i < c.length) : (c.take positions).length = positions.length := by
  rw [← length_cells, cells_take]
  exact length_pick (by rwa [length_cells])

theorem Column.take_replicate {positions : List Nat} {n : Nat} (h : ∀ i ∈ positions, i < n)
    (v : Cell) : (replicate n v).take positions = replicate positions.length v := by
  cases v with
  | int x => exact congrArg ints (pick_replicate h x)
  | float x => exact congrArg floats (pick_replicate h x)
  | bool x => exact congrArg bools (pick_replicate h x)
  | str x => exact congrArg strs (pick_replicate h x)

/-- Where every cell can be read, reading picked cells is picking what was read. -/
theorem Column.readAs_pick {cells : List Cell} {type : CellType}
    (h : ∀ v ∈ cells, fitsType v type) (positions : List Nat) :
    readAs (pick positions cells) type = (readAs cells type).take positions := by
  cases type with
  | int => exact congrArg ints (pick_filterMap h positions).symm
  | float => exact congrArg floats (pick_filterMap h positions).symm
  | bool => exact congrArg bools (pick_filterMap h positions).symm
  | str => exact congrArg strs (pick_filterMap h positions).symm

/-! ## Tables -/

namespace Table

variable {t : Table} {positions : List Nat}

theorem mem_of_find? {name : String} {c : Column} (h : t.find? name = some c) :
    (name, c) ∈ t.columns := mem_of_lookup h

@[simp] theorem names_gather : (t.gather positions).names = t.names := by
  show (t.columns.map _).map Prod.fst = t.columns.map Prod.fst
  rw [List.map_map]
  rfl

theorem rows_gather (h : ∀ i ∈ positions, i < t.rows) :
    (t.gather positions).rows = positions.length :=
  length_pick h

theorem find?_gather (name : String) :
    (t.gather positions).find? name = (t.find? name).map (Column.take positions) := by
  show (t.columns.map fun c => (c.1, c.2.take positions)).lookup name = _
  rw [find?]
  induction t.columns with
  | nil => rfl
  | cons c rest ih =>
      obtain ⟨other, c⟩ := c
      rw [List.map_cons, List.lookup_cons, List.lookup_cons]
      cases name == other with
      | true => rfl
      | false => exact ih

/-- Positions that exist can be taken. -/
theorem take_of_bounds (h : ∀ i ∈ positions, i < t.rows) :
    t.take positions = .ok (t.gather positions) := by
  have hfind : positions.find? (fun p => t.rows ≤ p) = none :=
    List.find?_eq_none.mpr fun i hi => by simpa using h i hi
  rw [take, hfind]

end Table

end TableVerbs
