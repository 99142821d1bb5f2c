import TableVerbs.Proofs.KeyTuples

/-!
# Groups are numbered in the order of their keys

The rows of a table are grouped, the groups are numbered as they are listed, and
from then on a row is known by the number of its group. What makes the number
meaningful is one fact: rows of two groups compare by their keys as the groups
do by their places. That a row has one group only, that rows share a group
exactly if their keys are equal, and that numbers ascend with the keys are three
ways to read it.

The labels of rows and the partitions of a table are both made from the groups,
and they are made from the groups by the keys without repeats. Groups by the
keys as given would be the same rows in the same order under longer tuples, so
it does not matter by which of the two a table is said to be grouped.
-/

namespace TableVerbs

/-! ## Places of groups -/

namespace Groups

/-- Whether a row stands in the group at a place. -/
def At (groups : Groups) (row place : Nat) : Prop :=
  ∃ group, groups[place]? = some group ∧ row ∈ group.2

/-- Groups that partition the rows below a number by their keys and are listed in
the order of the keys. -/
structure PartitionBy (keyOf : Nat → List Cell) (n : Nat) (groups : Groups) : Prop where
  rows : ∀ {row place}, groups.At row place → row < n
  one : ∀ row < n, ∃! place, groups.At row place
  ascending : ∀ group ∈ groups, group.2.Pairwise (· < ·)
  nonempty : ∀ group ∈ groups, group.2 ≠ []
  key : ∀ group ∈ groups, group.2.head?.map keyOf = some group.1
  together : ∀ r < n, ∀ s < n,
    (∃ group ∈ groups, r ∈ group.2 ∧ s ∈ group.2) ↔ Cell.orderKeys (keyOf r) (keyOf s) = .eq
  keys : (groups.map Prod.fst).Pairwise fun a b => Cell.orderKeys a b = .lt

/-- Labels that number the rows by the places of their groups. -/
structure NumberedBy (keyOf : Nat → List Cell) (n : Nat) (groups : Groups) (labels : List Nat) :
    Prop where
  length : labels.length = n
  ordinal : ∀ {row label}, labels[row]? = some label ↔ groups.At row label
  range : ∀ label, label ∈ labels ↔ label < groups.length
  same : ∀ {r s a b}, labels[r]? = some a → labels[s]? = some b →
    (a = b ↔ Cell.orderKeys (keyOf r) (keyOf s) = .eq)
  less : ∀ {r s a b}, labels[r]? = some a → labels[s]? = some b →
    (a < b ↔ Cell.orderKeys (keyOf r) (keyOf s) = .lt)

section

variable {keyOf : Nat → List Cell} {n : Nat} {groups : Groups}

theorem Ascending.compare_places (h : groups.Ascending) {i j : Nat}
    {group group' : List Cell × List Nat} (hi : groups[i]? = some group)
    (hj : groups[j]? = some group') : Cell.orderKeys group.1 group'.1 = compare i j := by
  have hless : ∀ {i j : Nat} {group group' : List Cell × List Nat}, groups[i]? = some group →
      groups[j]? = some group' → i < j → Cell.orderKeys group.1 group'.1 = .lt := by
    intro i j group group' hi hj hij
    obtain ⟨hilt, rfl⟩ := List.getElem?_eq_some_iff.mp hi
    obtain ⟨hjlt, rfl⟩ := List.getElem?_eq_some_iff.mp hj
    exact List.pairwise_iff_getElem.mp (List.pairwise_map.mp h) i j hilt hjlt hij
  rcases Nat.lt_trichotomy i j with hij | rfl | hij
  · rw [hless hi hj hij, Nat.compare_eq_lt.mpr hij]
  · cases hi.symm.trans hj
    rw [Nat.compare_eq_eq.mpr rfl]
    exact Std.ReflCmp.compare_self
  · rw [Nat.compare_eq_gt.mpr hij]
    exact Std.OrientedCmp.gt_of_lt (hless hj hi hij)

theorem Split.at_iff {rows : List Nat} (h : groups.Split keyOf rows) {row place : Nat} :
    groups.At row place ↔
      ∃ group, groups[place]? = some group ∧ row ∈ rows ∧ sameKey (keyOf row) group.1 = true := by
  refine exists_congr fun group => and_congr_right fun hgroup => ?_
  rw [h.members group (List.mem_of_getElem? hgroup), List.mem_filter]

/-- Rows compare as the places of their groups do. -/
theorem Split.compare_rows {rows : List Nat} (h : groups.Split keyOf rows) {r s i j : Nat}
    (hr : groups.At r i) (hs : groups.At s j) :
    Cell.orderKeys (keyOf r) (keyOf s) = compare i j := by
  obtain ⟨group, hi, _, hsame⟩ := h.at_iff.mp hr
  obtain ⟨group', hj, _, hsame'⟩ := h.at_iff.mp hs
  rw [Std.TransCmp.congr_left (sameKey_iff.mp hsame),
    Std.TransCmp.congr_right (sameKey_iff.mp hsame')]
  exact h.ascending.compare_places hi hj

theorem Split.place_unique {rows : List Nat} (h : groups.Split keyOf rows) {row i j : Nat}
    (hi : groups.At row i) (hj : groups.At row j) : i = j := by
  have hself : Cell.orderKeys (keyOf row) (keyOf row) = .eq := Std.ReflCmp.compare_self
  rw [h.compare_rows hi hj] at hself
  exact Nat.compare_eq_eq.mp hself

theorem Split.exists_place {rows : List Nat} (h : groups.Split keyOf rows) {row : Nat}
    (hrow : row ∈ rows) : ∃ place, groups.At row place := by
  obtain ⟨group, hgroup, hsame⟩ := h.covers row hrow
  obtain ⟨place, hplace⟩ := List.mem_iff_getElem?.mp hgroup
  exact ⟨place, h.at_iff.mpr ⟨group, hplace, hrow, hsame⟩⟩

theorem Split.partitionBy (h : groups.Split keyOf (List.range n)) :
    groups.PartitionBy keyOf n where
  rows := by
    intro row place hrow
    obtain ⟨_, _, hrow, _⟩ := h.at_iff.mp hrow
    exact List.mem_range.mp hrow
  one := by
    intro row hrow
    obtain ⟨place, hplace⟩ := h.exists_place (List.mem_range.mpr hrow)
    exact ⟨place, hplace, fun other hother => h.place_unique hother hplace⟩
  ascending := fun group hgroup => h.rows_ascending hgroup
  nonempty := fun group hgroup => h.ne_nil hgroup
  key := h.first
  together := by
    intro r hr s hs
    constructor
    · rintro ⟨group, hgroup, hr, hs⟩
      obtain ⟨place, hplace⟩ := List.mem_iff_getElem?.mp hgroup
      rw [h.compare_rows ⟨group, hplace, hr⟩ ⟨group, hplace, hs⟩]
      exact Nat.compare_eq_eq.mpr rfl
    · intro hsame
      obtain ⟨i, hi⟩ := h.exists_place (List.mem_range.mpr hr)
      obtain ⟨j, hj⟩ := h.exists_place (List.mem_range.mpr hs)
      rw [h.compare_rows hi hj, Nat.compare_eq_eq] at hsame
      subst hsame
      obtain ⟨group, hgroup, hr⟩ := hi
      obtain ⟨group', hgroup', hs⟩ := hj
      cases hgroup.symm.trans hgroup'
      exact ⟨group, List.mem_of_getElem? hgroup, hr, hs⟩
  keys := h.ascending

/-! ## Labels -/

/-- The place of the first group that a row stands in. -/
def labelOf (groups : Groups) (row : Nat) : Nat := groups.findIdx fun group => group.2.contains row

theorem Split.labelOf_eq {rows : List Nat} (h : groups.Split keyOf rows) {row place : Nat}
    (hplace : groups.At row place) : groups.labelOf row = place := by
  obtain ⟨group, hgroup, hrow⟩ := id hplace
  obtain ⟨hlt, rfl⟩ := List.getElem?_eq_some_iff.mp hgroup
  rw [labelOf, List.findIdx_eq hlt]
  refine ⟨List.contains_iff_mem.mpr hrow, fun j hj => ?_⟩
  rw [← Bool.not_eq_true, List.contains_iff_mem]
  intro hother
  have hsame := h.place_unique ⟨_, List.getElem?_eq_getElem (Nat.lt_trans hj hlt), hother⟩ hplace
  omega

theorem Split.numberedBy (h : groups.Split keyOf (List.range n)) :
    groups.NumberedBy keyOf n ((List.range n).map groups.labelOf) := by
  have hordinal : ∀ {row label},
      ((List.range n).map groups.labelOf)[row]? = some label ↔ groups.At row label := by
    intro row label
    rw [List.getElem?_map, Option.map_eq_some_iff]
    constructor
    · rintro ⟨r, hr, rfl⟩
      obtain ⟨hlt, rfl⟩ := List.getElem?_eq_some_iff.mp hr
      obtain ⟨place, hplace⟩ := h.exists_place (List.getElem_mem hlt)
      rw [h.labelOf_eq hplace]
      rwa [List.getElem_range] at hplace
    · intro hplace
      refine ⟨row, List.getElem?_range (h.partitionBy.rows hplace), h.labelOf_eq hplace⟩
  refine ⟨by simp, hordinal, fun label => ?_, ?_, ?_⟩
  · rw [List.mem_iff_getElem?]
    constructor
    · rintro ⟨row, hrow⟩
      obtain ⟨_, hgroup, _⟩ := hordinal.mp hrow
      exact (List.getElem?_eq_some_iff.mp hgroup).1
    · intro hlt
      obtain ⟨row, hrow⟩ := List.exists_mem_of_ne_nil _ (h.ne_nil (List.getElem_mem hlt))
      exact ⟨row, hordinal.mpr ⟨_, List.getElem?_eq_getElem hlt, hrow⟩⟩
  · intro r s a b ha hb
    rw [h.compare_rows (hordinal.mp ha) (hordinal.mp hb), Nat.compare_eq_eq]
  · intro r s a b ha hb
    rw [h.compare_rows (hordinal.mp ha) (hordinal.mp hb), Nat.compare_eq_lt]

/-! ### Labels written group by group

Labels can also be made the other way around, starting from zeros and writing the
place of each group to its rows. What is written to a row stays, because no
other group has that row. -/

/-- Labels with a place written to some rows. -/
def write (labels : List Nat) (rows : List Nat) (place : Nat) : List Nat :=
  rows.foldl (fun labels row => labels.set row place) labels

/-- Labels with its place, counted from `start`, written to the rows of each group. -/
def writeAll (start : Nat) (labels : List Nat) : Groups → List Nat
  | [] => labels
  | group :: rest => writeAll (start + 1) (write labels group.2 start) rest

theorem getElem?_write (labels rows : List Nat) (place row : Nat) :
    (write labels rows place)[row]? =
      if row ∈ rows then labels[row]?.map fun _ => place else labels[row]? := by
  induction rows generalizing labels with
  | nil => simp [write]
  | cons r rest ih =>
      have hset : (write labels (r :: rest) place) = write (labels.set r place) rest place := rfl
      rw [hset, ih, List.getElem?_set]
      by_cases hr : r = row
      · subst hr
        by_cases hlt : r < labels.length <;> simp [hlt]
      · have hmem : row ∈ r :: rest ↔ row ∈ rest := by simp [Ne.symm hr]
        simp only [hr, hmem, if_false]

theorem getElem?_writeAll_of_not_mem {start row : Nat} (labels : List Nat)
    (h : ∀ group ∈ groups, row ∉ group.2) :
    (groups.writeAll start labels)[row]? = labels[row]? := by
  induction groups generalizing start labels with
  | nil => rfl
  | cons group rest ih =>
      obtain ⟨hgroup, hrest⟩ := List.forall_mem_cons.mp h
      rw [writeAll, ih _ hrest, getElem?_write, if_neg hgroup]

theorem getElem?_writeAll {start row place : Nat} (labels : List Nat) (h : groups.At row place)
    (hone : ∀ other, groups.At row other → other = place) :
    (groups.writeAll start labels)[row]? = labels[row]?.map fun _ => start + place := by
  induction groups generalizing start place labels with
  | nil =>
      obtain ⟨_, hgroup, _⟩ := h
      cases hgroup
  | cons group rest ih =>
      rw [writeAll]
      cases place with
      | zero =>
          obtain ⟨_, hgroup, hrow⟩ := h
          cases hgroup
          have hrest : ∀ other ∈ rest, row ∉ other.2 := by
            intro other hother hmem
            obtain ⟨i, hi⟩ := List.mem_iff_getElem?.mp hother
            have := hone (i + 1) ⟨other, hi, hmem⟩
            omega
          rw [getElem?_writeAll_of_not_mem _ hrest, getElem?_write, if_pos hrow]
          rfl
      | succ place =>
          have hfirst : row ∉ group.2 := by
            intro hmem
            have := hone 0 ⟨group, rfl, hmem⟩
            omega
          rw [ih _ h fun other hother => Nat.succ.inj (hone (other + 1) hother), getElem?_write,
            if_neg hfirst, Nat.add_assoc, Nat.add_comm 1]

theorem Split.writeAll_eq (h : groups.Split keyOf (List.range n)) :
    groups.writeAll 0 (List.replicate n 0) = (List.range n).map groups.labelOf := by
  refine List.ext_getElem? fun row => ?_
  by_cases hrow : row < n
  · obtain ⟨place, hplace⟩ := h.exists_place (List.mem_range.mpr hrow)
    rw [getElem?_writeAll _ hplace fun other hother => h.place_unique hother hplace,
      List.getElem?_map, List.getElem?_range hrow]
    simp [hrow, h.labelOf_eq hplace]
  · rw [getElem?_writeAll_of_not_mem]
    · simp [hrow]
    · intro group hgroup hmem
      obtain ⟨place, hplace⟩ := List.mem_iff_getElem?.mp hgroup
      exact hrow (h.partitionBy.rows ⟨group, hplace, hmem⟩)

end

/-! ## Two tuples for one row -/

section

variable {keyOf keyOf' : Nat → List Cell} {rows : List Nat} {groups groups' : Groups}

/-- The same rows, with a key by each of two functions. -/
def Alike (keyOf keyOf' : Nat → List Cell) (rows : List Nat) (group group' : List Cell × List Nat) :
    Prop :=
  group'.2 = group.2 ∧ ∃ r ∈ rows, group.1 = keyOf r ∧ group'.1 = keyOf' r

/-- Where the two functions order the rows alike, a row goes to the same place. -/
theorem alike_add (hkeys : ∀ r ∈ rows, ∀ s ∈ rows,
      Cell.orderKeys (keyOf' r) (keyOf' s) = Cell.orderKeys (keyOf r) (keyOf s))
    {row : Nat} (hrow : row ∈ rows) (h : List.Forall₂ (Alike keyOf keyOf' rows) groups groups') :
    List.Forall₂ (Alike keyOf keyOf' rows) (groups.add (keyOf row) row)
      (groups'.add (keyOf' row) row) := by
  have hnew : Alike keyOf keyOf' rows (keyOf row, [row]) (keyOf' row, [row]) :=
    ⟨rfl, row, hrow, rfl, rfl⟩
  induction h with
  | nil => exact .cons hnew .nil
  | @cons group group' rest rest' hgroup hrest ih =>
      obtain ⟨hrows, r, hr, hkey, hkey'⟩ := id hgroup
      obtain ⟨k, members⟩ := group
      obtain ⟨k', members'⟩ := group'
      cases hkey
      cases hkey'
      cases hrows
      -- both groups have the key of the row `r`, so the two comparisons come out alike
      rw [add, add, hkeys row hrow r hr]
      cases Cell.orderKeys (keyOf row) (keyOf r) with
      | lt => exact .cons hnew (.cons hgroup hrest)
      | eq => exact .cons ⟨rfl, r, hr, rfl, rfl⟩ hrest
      | gt => exact .cons hgroup ih

theorem alike_foldl (hkeys : ∀ r ∈ rows, ∀ s ∈ rows,
      Cell.orderKeys (keyOf' r) (keyOf' s) = Cell.orderKeys (keyOf r) (keyOf s))
    {more : List Nat} (hmore : more ⊆ rows)
    (h : List.Forall₂ (Alike keyOf keyOf' rows) groups groups') :
    List.Forall₂ (Alike keyOf keyOf' rows)
      (more.foldl (fun groups row => Groups.add groups (keyOf row) row) groups)
      (more.foldl (fun groups row => Groups.add groups (keyOf' row) row) groups') := by
  induction more generalizing groups groups' with
  | nil => exact h
  | cons row rest ih =>
      obtain ⟨hrow, hrest⟩ := List.cons_subset.mp hmore
      exact ih hrest (alike_add hkeys hrow h)

theorem labelOf_alike (h : List.Forall₂ (Alike keyOf keyOf' rows) groups groups') :
    groups'.labelOf = groups.labelOf := by
  funext row
  induction h with
  | nil => rfl
  | cons hgroup _ ih =>
      rw [labelOf, labelOf] at ih ⊢
      rw [List.findIdx_cons, List.findIdx_cons, ih, hgroup.1]

end

end Groups

/-! ## Partitions -/

theorem map_some_pick {α : Type} {positions : List Nat} {xs : List α}
    (h : ∀ i ∈ positions, i < xs.length) :
    (pick positions xs).map some = positions.map fun i => xs[i]? := by
  induction positions with
  | nil => rfl
  | cons i rest ih =>
      obtain ⟨hi, hrest⟩ := List.forall_mem_cons.mp h
      rw [pick_cons_of_lt hi, List.map_cons, List.map_cons, ih hrest, List.getElem?_eq_getElem hi]

namespace Table

variable {t : Table}

/-- A table of the rows of another at some positions, in that order and with their
labels. -/
structure RowsAt (t : Table) (positions : List Nat) (u : Table) : Prop where
  labels : u.labels.map some = positions.map fun i => t.labels[i]?
  columns : List.Forall₂ (fun c d => d.1 = c.1 ∧ d.2.type = c.2.type ∧
    d.2.cells.map some = positions.map fun i => c.2.get? i) t.columns u.columns

theorem WellFormed.rowsAt_gather (wf : t.WellFormed) {positions : List Nat}
    (h : ∀ i ∈ positions, i < t.rows) : t.RowsAt positions (t.gather positions) where
  labels := map_some_pick h
  columns := by
    show List.Forall₂ _ t.columns (t.columns.map fun c => (c.1, c.2.take positions))
    rw [List.forall₂_map_right_iff, List.forall₂_same]
    intro c hc
    refine ⟨rfl, Column.type_take positions c.2, ?_⟩
    rw [Column.cells_take, map_some_pick]
    · rfl
    · rwa [Column.length_cells, wf.lengths c hc]

/-- Grouping by names that come repeatedly finds the rows that grouping by the
names without repeats finds. -/
theorem groupRows_withoutRepeats (wf : t.WellFormed) {names : List String}
    {columns columns' : List Column} (hcolumns : t.columnsOf names = .ok columns)
    (hcolumns' : t.columnsOf (withoutRepeats names) = .ok columns') :
    ∃ groups groups', t.groupRows names = .ok groups ∧
      t.groupRows (withoutRepeats names) = .ok groups' ∧
      List.Forall₂ (Groups.Alike (keyAt columns) (keyAt columns') (List.range t.rows))
        groups groups' := by
  have hkeys : ∀ r ∈ List.range t.rows, ∀ s ∈ List.range t.rows,
      Cell.orderKeys (keyAt columns' r) (keyAt columns' s) =
        Cell.orderKeys (keyAt columns r) (keyAt columns s) := by
    intro r hr s hs
    exact orderKeys_withoutRepeats wf hcolumns hcolumns' (List.mem_range.mp hr)
      (List.mem_range.mp hs)
  refine ⟨_, _, ?_, ?_, Groups.alike_foldl hkeys (List.Subset.refl _) .nil⟩
  · rw [groupRows, hcolumns]
    simp only [zipIdx_keyRows, List.foldl_map]
  · rw [groupRows, hcolumns']
    simp only [zipIdx_keyRows, List.foldl_map]

/-- Grouping partitions the rows of a table by their keys, in the order of the keys.
The labels of the grouped table number its rows by these groups, and its
partitions are the rows of the groups, in the same order. -/
theorem grouping_numbers (wf : t.WellFormed) {names : List String}
    (hnames : ∀ name ∈ names, name ∈ t.names) :
    ∃ columns groups, t.columnsOf names = .ok columns ∧ t.groupRows names = .ok groups ∧
      groups.PartitionBy (keyAt columns) t.rows ∧
      (names ≠ [] → ∃ keyColumns labels partitions,
        t.columnsOf (withoutRepeats names) = .ok keyColumns ∧
        Grouped.ofKeys t names = .ok ⟨t, withoutRepeats names⟩ ∧
        (Grouped.mk t (withoutRepeats names)).labels = .ok labels ∧
        groups.NumberedBy (keyAt columns) t.rows labels ∧
        labels = groups.writeAll 0 (List.replicate t.rows 0) ∧
        (Grouped.mk t (withoutRepeats names)).partitions = .ok partitions ∧
        List.Forall₂ (fun group p => group.2.head?.map (keyAt keyColumns) = some p.key ∧
          t.RowsAt group.2 p.table) groups partitions) := by
  obtain ⟨columns, hcolumns⟩ := exists_columnsOf hnames
  have hkeys : ∀ name ∈ withoutRepeats names, name ∈ t.names :=
    fun name hname => hnames name (mem_withoutRepeats.mp hname)
  obtain ⟨keyColumns, hkeyColumns⟩ := exists_columnsOf hkeys
  obtain ⟨groups, hgroups, hsplit⟩ := groupRows_split hcolumns
  obtain ⟨groups', hgroups', hsplit'⟩ := groupRows_split hkeyColumns
  obtain ⟨found, found', hfound, hfound', halike⟩ :=
    groupRows_withoutRepeats wf hcolumns hkeyColumns
  cases hfound.symm.trans hgroups
  cases hfound'.symm.trans hgroups'
  refine ⟨columns, groups, hcolumns, hgroups, hsplit.partitionBy, fun hne => ?_⟩
  refine ⟨keyColumns, (List.range t.rows).map groups'.labelOf, _, hkeyColumns,
    Grouped.ofKeys_eq_ok.mpr ⟨hne, hnames, rfl⟩, ?_, ?_, ?_, congrArg (Except.map _) hgroups', ?_⟩
  · rw [Grouped.labels, hgroups']
    rfl
  -- the labels are made from the groups without repeats and number the others as well
  · rw [Groups.labelOf_alike halike]
    exact hsplit.numberedBy
  · rw [Groups.labelOf_alike halike, hsplit.writeAll_eq]
  · rw [List.forall₂_map_right_iff, List.forall₂_iff_zip]
    refine ⟨halike.length_eq, fun {group group'} hpair => ?_⟩
    obtain ⟨hgroup, hgroup'⟩ := List.of_mem_zip hpair
    have hrows : group'.2 = group.2 := ((List.forall₂_iff_zip.mp halike).2 hpair).1
    show _ ∧ t.RowsAt group.2 (t.gather group'.2)
    rw [hrows]
    refine ⟨?_, wf.rowsAt_gather (groupRows_bounds hgroups group hgroup)⟩
    rw [← hrows]
    exact hsplit'.first group' hgroup'

/-- Two zeros and a NaN, grouped by their column named twice. -/
theorem grouping_numbers_zeros :
    ∃ groups, Table.groupRows ["k", "k"] ⟨[("k", .floats [-0.0, 0.0 / 0.0, 0.0])], [0, 1, 2]⟩ =
        .ok groups ∧
      groups.PartitionBy (keyAt (List.replicate 2 (.floats [-0.0, 0.0 / 0.0, 0.0]))) 3 ∧
      (Grouped.mk ⟨[("k", .floats [-0.0, 0.0 / 0.0, 0.0])], [0, 1, 2]⟩ ["k"]).labels =
        .ok [0, 1, 0] := by
  have hnames : ∀ name ∈ ["k", "k"],
      name ∈ Table.names ⟨[("k", .floats [-0.0, 0.0 / 0.0, 0.0])], [0, 1, 2]⟩ := by decide
  obtain ⟨columns, groups, hcolumns, hgroups, hpartition, hnumbers⟩ :=
    grouping_numbers ⟨by decide, by decide⟩ hnames
  obtain ⟨_, labels, _, _, _, hlabels, _, hwritten, _⟩ := hnumbers (by decide)
  cases hcolumns
  refine ⟨groups, hgroups, hpartition, ?_⟩
  have hfound : Table.groupRows ["k", "k"]
      ⟨[("k", .floats [-0.0, 0.0 / 0.0, 0.0])], [0, 1, 2]⟩ =
        .ok [([.float (-0.0), .float (-0.0)], [0, 2]),
          ([.float (0.0 / 0.0), .float (0.0 / 0.0)], [1])] := by decide
  cases hfound.symm.trans hgroups
  rw [hwritten] at hlabels
  exact hlabels

end Table

end TableVerbs
