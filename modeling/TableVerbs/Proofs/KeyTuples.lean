import TableVerbs.Proofs.GroupedRows

/-!
# Key tuples by name

The key of a row is computed from columns, and what is said about keys is said
about names: the tuple has, name by name, the cell of that column in that row.

Names may come repeatedly. A repeated name puts the same cell into the tuple
again, and where two tuples are compared as far as that, they have been compared
in that cell already and were equal. So repeats count for nothing in the order
of keys, and a table can be grouped by the names without them.
-/

namespace TableVerbs

/-! ## Keys as cells of the table -/

/-- The cell of a column in a row, a missing one if there is none. -/
def Table.cellAt (t : Table) (row : Nat) (name : String) : Cell :=
  ((t.find? name).bind fun c => c.get? row).getD .missing

namespace Table

variable {t : Table} {names : List String} {columns : List Column} {row : Nat}

theorem get?_eq_cellAt {name : String} {c : Column} (hc : t.find? name = some c)
    (hrow : row < c.length) : c.get? row = some (t.cellAt row name) := by
  rw [cellAt, hc, Option.bind_some, Column.get?,
    List.getElem?_eq_getElem (c.length_cells ▸ hrow)]
  rfl

/-- The key of a row is made of the cells that the columns have there. -/
theorem keyAt_eq_map (h : t.columnsOf names = .ok columns) {cell : String → Cell}
    (hcell : ∀ name ∈ names, ∀ c, t.find? name = some c → c.get? row = some (cell name)) :
    keyAt columns row = names.map cell := by
  have hall := mapM_eq_ok.mp h
  clear h
  induction hall with
  | nil => rfl
  | @cons name c names columns hname _ ih =>
      obtain ⟨hfirst, hrest⟩ := List.forall_mem_cons.mp hcell
      have hnext := ih hrest
      rw [keyAt] at hnext ⊢
      rw [List.filterMap_cons, hfirst c (column_eq_ok.mp hname), List.map_cons, hnext]

theorem keyAt_eq_cellAt (wf : t.WellFormed) (h : t.columnsOf names = .ok columns)
    (hrow : row < t.rows) : keyAt columns row = names.map (t.cellAt row) := by
  refine keyAt_eq_map h fun name _ c hc => ?_
  have hlen : c.length = t.rows := wf.lengths _ (mem_of_find? hc)
  exact get?_eq_cellAt hc (hlen ▸ hrow)

theorem rowKeys_of_cells {ρ : Type} {rows : List ρ} {cell : ρ → String → Cell}
    (hrows : t.rows = rows.length) (h : ∀ name ∈ names, ∃ c, t.find? name = some c ∧
      c.cells = rows.map fun r => cell r name) :
    t.rowKeys names = .ok (rows.map fun r => names.map (cell r)) := by
  obtain ⟨columns, hcolumns⟩ : ∃ columns, t.columnsOf names = .ok columns := by
    refine mapM_succeeds.mpr fun name hname => ?_
    obtain ⟨c, hc, _⟩ := h name hname
    exact ⟨c, column_eq_ok.mpr hc⟩
  rw [rowKeys, hcolumns, hrows]
  refine congrArg Except.ok ?_
  rw [keyRows_eq_map]
  refine List.ext_getElem (by simp) fun j _ hj => ?_
  rw [List.length_map] at hj
  rw [List.getElem_map, List.getElem_range, List.getElem_map]
  refine keyAt_eq_map hcolumns fun name hname c hc => ?_
  obtain ⟨d, hd, hcells⟩ := h name hname
  cases hc.symm.trans hd
  rw [Column.get?, hcells, List.getElem?_map, List.getElem?_eq_getElem hj]
  rfl

theorem type_cellAt {name : String} {c : Column} (hc : t.find? name = some c)
    (hrow : row < c.length) : (t.cellAt row name).type = c.type :=
  Column.type_of_mem_cells (List.mem_of_getElem? (get?_eq_cellAt hc hrow))

end Table

/-! ## Names that come repeatedly -/

section

variable {a b : String → Cell}

/-- A name in which two rows have equal cells can be left out of their keys. -/
theorem orderKeys_map_filter {name : String} (h : Cell.order (a name) (b name) = .eq)
    (names : List String) :
    Cell.orderKeys ((names.filter fun other => !other == name).map a)
        ((names.filter fun other => !other == name).map b) =
      Cell.orderKeys (names.map a) (names.map b) := by
  induction names with
  | nil => rfl
  | cons n rest ih =>
      by_cases hn : n = name
      · subst hn
        simp only [List.filter_cons, beq_self_eq_true, Bool.not_true, List.map_cons]
        rw [Cell.orderKeys, h]
        exact ih
      · have hkept : (n == name) = false := beq_eq_false_iff_ne.mpr hn
        simp only [List.filter_cons, hkept, Bool.not_false, if_true, List.map_cons]
        rw [Cell.orderKeys, Cell.orderKeys, ih]

theorem orderKeys_map_withoutRepeats : (names : List String) →
    Cell.orderKeys ((withoutRepeats names).map a) ((withoutRepeats names).map b) =
      Cell.orderKeys (names.map a) (names.map b)
  | [] => rfl
  | name :: rest => by
      have ih := orderKeys_map_withoutRepeats (rest.filter fun other => !other == name)
      rw [withoutRepeats] at ih ⊢
      rw [List.eraseDups_cons, List.map_cons, List.map_cons, List.map_cons, List.map_cons,
        Cell.orderKeys, Cell.orderKeys, ih]
      -- the rest is compared only if the cells of this name are equal
      cases h : Cell.order (a name) (b name) with
      | eq => exact orderKeys_map_filter h rest
      | lt | gt => rfl
termination_by names => names.length
decreasing_by exact Nat.lt_succ_of_le (List.length_filter_le _ _)

end

/-- Rows compare by the names without repeats as they do by the names. -/
theorem Table.orderKeys_withoutRepeats {t : Table} (wf : t.WellFormed) {names : List String}
    {columns columns' : List Column} (h : t.columnsOf names = .ok columns)
    (h' : t.columnsOf (withoutRepeats names) = .ok columns') {r s : Nat} (hr : r < t.rows)
    (hs : s < t.rows) :
    Cell.orderKeys (keyAt columns' r) (keyAt columns' s) =
      Cell.orderKeys (keyAt columns r) (keyAt columns s) := by
  rw [keyAt_eq_cellAt wf h hr, keyAt_eq_cellAt wf h hs, keyAt_eq_cellAt wf h' hr,
    keyAt_eq_cellAt wf h' hs]
  exact orderKeys_map_withoutRepeats names

end TableVerbs
