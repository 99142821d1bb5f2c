import TableVerbs.Proofs.StackValues
import TableVerbs.Proofs.WellFormedDataset

/-!
# Picks of picks

Heads, filters and partitions are picks of rows, and verbs put them on top of
each other. A pick of a pick is a pick, by the positions picked from the
positions; a filter of a pick is the pick of the positions that are kept; and
picks of one table, stacked, are one pick by all positions in turn, with new
labels. So whatever is done by such steps is one pick in the end, and its rows
can be told from the positions alone.
-/

namespace TableVerbs

section

variable {α : Type} {positions : List Nat} {xs : List α}

theorem getElem?_pick (h : ∀ i ∈ positions, i < xs.length) (j : Nat) :
    (pick positions xs)[j]? = positions[j]?.bind fun i => xs[i]? := by
  induction positions generalizing j with
  | nil => rfl
  | cons i rest ih =>
      obtain ⟨hi, hrest⟩ := List.forall_mem_cons.mp h
      rw [pick_cons_of_lt hi]
      cases j with
      | zero => exact (List.getElem?_eq_getElem hi).symm
      | succ j => exact ih hrest j

theorem pick_pick (h : ∀ i ∈ positions, i < xs.length) (places : List Nat) :
    pick places (pick positions xs) = pick (pick places positions) xs := by
  simp only [pick, List.filterMap_filterMap]
  exact List.filterMap_congr fun p _ => getElem?_pick h p

theorem getElem?_range_bind (xs : List α) (j : Nat) :
    (List.range xs.length)[j]?.bind (fun i => xs[i]?) = xs[j]? := by
  rw [← getElem?_pick fun _ hi => List.mem_range.mp hi, pick_range]

theorem pick_range_take (n : Nat) (xs : List α) :
    pick ((List.range xs.length).take n) xs = xs.take n := by
  refine List.ext_getElem? fun j => ?_
  rw [getElem?_pick fun i hi => List.mem_range.mp (List.mem_of_mem_take hi), List.getElem?_take,
    List.getElem?_take]
  split
  · exact getElem?_range_bind xs j
  · rfl

theorem pick_range_drop (n : Nat) (xs : List α) :
    pick ((List.range xs.length).drop n) xs = xs.drop n := by
  refine List.ext_getElem? fun j => ?_
  rw [getElem?_pick fun i hi => List.mem_range.mp (List.mem_of_mem_drop hi), List.getElem?_drop,
    List.getElem?_drop]
  exact getElem?_range_bind xs (n + j)

theorem marked_pick (h : ∀ i ∈ positions, i < xs.length) (mask : List Bool) :
    marked mask (pick positions xs) = pick (marked mask positions) xs := by
  induction positions generalizing mask with
  | nil => rfl
  | cons i rest ih =>
      obtain ⟨hi, hrest⟩ := List.forall_mem_cons.mp h
      rw [pick_cons_of_lt hi]
      cases mask with
      | nil => rfl
      | cons keep mask =>
          have hnext := ih hrest mask
          cases keep with
          | true =>
              show xs[i] :: marked mask (pick rest xs) = pick (i :: marked mask rest) xs
              rw [hnext, pick_cons_of_lt hi]
          | false => exact hnext

theorem marked_eq_pick {n : Nat} (h : xs.length = n) (mask : List Bool) :
    marked mask xs = pick (marked mask (List.range n)) xs := by
  rw [← h, ← marked_pick fun i hi => List.mem_range.mp hi, pick_range]

end

/-! ## Columns -/

namespace Column

variable {c : Column} {positions : List Nat}

theorem take_take (h : ∀ i ∈ positions, i < c.length) (places : List Nat) :
    (c.take positions).take places = c.take (pick places positions) := by
  refine ext_cells (by simp) ?_
  rw [cells_take, cells_take, cells_take]
  exact pick_pick (by rwa [length_cells]) places

theorem take_range {n : Nat} (h : c.length = n) : c.take (List.range n) = c := by
  refine ext_cells (type_take _ c) ?_
  rw [cells_take, ← h, ← length_cells]
  exact pick_range c.cells

theorem filter_take (h : ∀ i ∈ positions, i < c.length) (mask : List Bool) :
    (c.take positions).filter mask = c.take (marked mask positions) := by
  cases c with
  | ints xs => exact congrArg ints (marked_pick h mask)
  | floats xs => exact congrArg floats (marked_pick h mask)
  | bools xs => exact congrArg bools (marked_pick h mask)
  | strs xs => exact congrArg strs (marked_pick h mask)

end Column

/-! ## Tables -/

/-- The names and types of the columns. -/
def Table.schema (t : Table) : List (String × CellType) :=
  t.columns.map fun c => (c.1, c.2.type)

namespace Table

variable {t : Table} {positions : List Nat}

theorem schema_reshape (f : {α : Type} → List α → List α) : (t.reshape f).schema = t.schema := by
  have htype : ∀ c : Column, (c.reshape f).type = c.type := by
    intro c
    cases c <;> rfl
  show (t.columns.map _).map _ = t.columns.map _
  rw [List.map_map]
  exact List.map_congr_left fun c _ => Prod.ext rfl (htype c.2)

theorem schema_gather : (t.gather positions).schema = t.schema := schema_reshape _

theorem eq_of_parts {u : Table} (hcolumns : t.columns = u.columns) (hlabels : t.labels = u.labels) :
    t = u := by
  cases t
  cases u
  cases hcolumns
  cases hlabels
  rfl

theorem gather_gather (hlen : t.Rectangular) (h : ∀ i ∈ positions, i < t.rows)
    (places : List Nat) :
    (t.gather positions).gather places = t.gather (pick places positions) := by
  refine eq_of_parts ?_ (pick_pick h places)
  show (t.columns.map _).map _ = t.columns.map _
  rw [List.map_map]
  refine List.map_congr_left fun c hc => ?_
  exact Prod.ext rfl (Column.take_take (hlen c hc ▸ h) places)

/-- Picking every row in its place changes nothing. -/
theorem gather_range (hlen : t.Rectangular) : t.gather (List.range t.rows) = t := by
  refine eq_of_parts ?_ (pick_range t.labels)
  refine (List.map_congr_left fun c hc => ?_).trans (List.map_id _)
  exact Prod.ext rfl (Column.take_range (hlen c hc))

/-- Rearrangements that treat lists as long as the table alike. -/
theorem reshape_congr {f g : {α : Type} → List α → List α} (hlen : t.Rectangular)
    (h : ∀ {α : Type} (xs : List α), xs.length = t.rows → f xs = g xs) :
    t.reshape f = t.reshape g := by
  refine eq_of_parts ?_ (h t.labels rfl)
  refine List.map_congr_left fun c hc => Prod.ext rfl ?_
  have hrows := hlen c hc
  show c.2.reshape f = c.2.reshape g
  cases hcol : c.2 with
  | ints xs =>
      rw [hcol] at hrows
      exact congrArg Column.ints (h xs hrows)
  | floats xs =>
      rw [hcol] at hrows
      exact congrArg Column.floats (h xs hrows)
  | bools xs =>
      rw [hcol] at hrows
      exact congrArg Column.bools (h xs hrows)
  | strs xs =>
      rw [hcol] at hrows
      exact congrArg Column.strs (h xs hrows)

/-- Filtering is picking the positions that the mask marks. -/
theorem reshape_marked (hlen : t.Rectangular) (mask : List Bool) :
    t.reshape (marked mask) = t.gather (marked mask (List.range t.rows)) :=
  reshape_congr hlen fun _ hxs => marked_eq_pick hxs mask

theorem head_eq (hlen : t.Rectangular) (n : Nat) : t.head n = t.reshape fun xs => xs.take n := by
  rw [head, headPositions, ← List.take_range]
  refine reshape_congr hlen fun xs hxs => ?_
  rw [← hxs]
  exact pick_range_take n xs

theorem tail_eq (hlen : t.Rectangular) (n : Nat) :
    t.tail n = t.reshape fun xs => xs.drop (t.rows - n) := by
  refine reshape_congr hlen fun xs hxs => ?_
  show pick ((List.range t.rows).drop (t.rows - n)) xs = xs.drop (t.rows - n)
  rw [← hxs]
  exact pick_range_drop (xs.length - n) xs

theorem filter_eq {mask : List Bool} (h : mask.length = t.rows) :
    t.filter mask = .ok (t.reshape (marked mask)) := by
  rw [filter, if_neg (not_not.mpr h)]
  rfl

/-- The rows that a mask keeps of a pick. -/
theorem filter_gather (wf : t.WellFormed) (h : ∀ i ∈ positions, i < t.rows) {mask : List Bool}
    (hmask : mask.length = positions.length) :
    (t.gather positions).filter mask = .ok (t.gather (marked mask positions)) := by
  rw [filter, rows_gather h, if_neg (not_not.mpr hmask)]
  refine congrArg Except.ok (eq_of_parts ?_ (marked_pick h mask))
  show (t.columns.map _).map _ = t.columns.map _
  rw [List.map_map]
  refine List.map_congr_left fun c hc => ?_
  exact Prod.ext rfl (Column.filter_take (wf.lengths c hc ▸ h) mask)

theorem head_gather (wf : t.WellFormed) (h : ∀ i ∈ positions, i < t.rows) (n : Nat) :
    (t.gather positions).head n = t.gather (positions.take n) := by
  rw [head, headPositions, rows_gather h, ← List.take_range, gather_gather wf.lengths h, pick_range_take]

theorem tail_gather (wf : t.WellFormed) (h : ∀ i ∈ positions, i < t.rows) (n : Nat) :
    (t.gather positions).tail n = t.gather (positions.drop (positions.length - n)) := by
  rw [tail, tailPositions, rows_gather h, gather_gather wf.lengths h, pick_range_drop]

theorem find?_of_mem (hnames : t.names.Nodup) {c : String × Column} (hc : c ∈ t.columns) :
    t.find? c.1 = some c.2 := (lookup_eq_some_iff_mem hnames).mpr hc

theorem totalSize_gather {picks : List (List Nat)}
    (h : ∀ positions ∈ picks, ∀ i ∈ positions, i < t.rows) :
    totalSize rows (picks.map fun positions => t.gather positions) = picks.flatten.length := by
  induction picks with
  | nil => rfl
  | cons first rest ih =>
      obtain ⟨hfirst, hrest⟩ := List.forall_mem_cons.mp h
      rw [List.map_cons, totalSize, rows_gather hfirst, ih hrest, List.flatten_cons,
        List.length_append]

theorem sameNames_of_names {u : Table} (h : t.names = u.names) : t.sameNames u = true := by
  have hall : ∀ {v w : Table}, v.names = w.names → v.names.all w.has = true := by
    intro v w hnames
    exact List.all_eq_true.mpr fun name hname => has_iff.mpr (hnames ▸ hname)
  rw [sameNames, hall h, hall h.symm]
  rfl

/-- Tables with the same names in the same order are like tables, so only their
columns decide whether they have a stack. -/
theorem stack_of_names {names : List String} {tables : List Table} (hne : tables ≠ [])
    (h : ∀ t ∈ tables, t.names = names) :
    stack tables = (names.mapM (stackColumn tables)).map fun columns =>
      ⟨columns, List.range (totalSize rows tables)⟩ := by
  obtain ⟨first, rest, rfl⟩ := List.exists_cons_of_ne_nil hne
  obtain ⟨hfirst, hrest⟩ := List.forall_mem_cons.mp h
  have hlike : rest.find? (fun u => !first.sameNames u) = none := by
    refine List.find?_eq_none.mpr fun u hu => ?_
    rw [sameNames_of_names (hfirst.trans (hrest u hu).symm)]
    decide
  rw [stack, hlike]
  simp only [hfirst]
  cases names.mapM (stackColumn (first :: rest)) <;> rfl

/-- Picks of one table, stacked, are one pick of it with new labels. -/
theorem stack_gather (wf : t.WellFormed) {picks : List (List Nat)} (hne : picks ≠ [])
    (h : ∀ positions ∈ picks, ∀ i ∈ positions, i < t.rows) :
    stack (picks.map fun positions => t.gather positions) =
      .ok (t.gather picks.flatten).relabelled := by
  have hcolumns : t.names.mapM
      (stackColumn (picks.map fun positions => t.gather positions)) =
        .ok (t.gather picks.flatten).columns := by
    rw [names, List.mapM_map]
    refine mapM_eq_map fun c hc => ?_
    have hparts : (picks.map fun positions => t.gather positions).filterMap
        (fun u => u.find? c.1) = picks.map fun positions => c.2.take positions := by
      rw [List.filterMap_map, ← List.filterMap_eq_map]
      refine List.filterMap_congr fun positions _ => ?_
      show (t.gather positions).find? c.1 = some (c.2.take positions)
      rw [find?_gather, find?_of_mem wf.names_nodup hc]
      rfl
    show (Column.stack _).map _ = _
    rw [hparts, Column.stack_take hne]
    rfl
  have hbounds : ∀ i ∈ picks.flatten, i < t.rows := by
    intro i hi
    obtain ⟨positions, hpositions, hi⟩ := List.mem_flatten.mp hi
    exact h positions hpositions i hi
  rw [stack_of_names (mt List.map_eq_nil_iff.mp hne)
    (List.forall_mem_map.mpr fun _ _ => names_gather), hcolumns, totalSize_gather h, relabelled,
    rows_gather hbounds]
  rfl

end Table

end TableVerbs
