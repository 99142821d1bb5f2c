import Mathlib.Algebra.BigOperators.Ring.Finset
import Mathlib.Algebra.Order.BigOperators.Group.List
import Mathlib.Algebra.Order.Group.Nat
import TableVerbs.Proofs.KeyTuples
import TableVerbs.Proofs.MergedRows
import TableVerbs.Proofs.Placeholder
import TableVerbs.Proofs.WellFormedVerbs

/-!
# Summaries of groups

A summary whose expressions all come to cells has one row for each group, in the
order of the keys, and the row holds the group's key and the cells that the
expressions have on the rows of that group and no others. Two things can still
go wrong after all cells are computed, and nothing else can: a name is a key, or
the cells of a name cannot be merged into a column.

The number of rows of a group is an expression as well, and as every row is in
one group, these numbers add up.
-/

namespace TableVerbs

/-! ## The groups of a table -/

namespace Groups

/-- The first row of a group. -/
def firstRow (group : List Cell × List Nat) : Nat := group.2.headD 0

variable {g : Grouped} {keyColumns : List Column} {groups : Groups}
  {group : List Cell × List Nat}

theorem Split.firstRow_mem {keyOf : Nat → List Cell} {rows : List Nat}
    (h : groups.Split keyOf rows) (hgroup : group ∈ groups) :
    firstRow group ∈ rows ∧ keyOf (firstRow group) = group.1 := by
  have hfirst := h.first group hgroup
  obtain ⟨r, hr, hkey⟩ := Option.map_eq_some_iff.mp hfirst
  have hrow : firstRow group = r := by
    rw [firstRow, List.headD_eq_head?_getD, hr]
    rfl
  have hmem : r ∈ group.2 := List.mem_of_head? hr
  rw [h.members group hgroup] at hmem
  rw [hrow]
  exact ⟨(List.mem_filter.mp hmem).1, hkey⟩

theorem Split.key_eq (wf : g.WellFormed) (hcolumns : g.table.columnsOf g.keys = .ok keyColumns)
    (h : groups.Split (keyAt keyColumns) (List.range g.table.rows)) (hgroup : group ∈ groups) :
    group.1 = g.keys.map (g.table.cellAt (firstRow group)) := by
  obtain ⟨hrow, hkey⟩ := h.firstRow_mem hgroup
  rw [← hkey]
  exact Table.keyAt_eq_cellAt wf.table hcolumns (List.mem_range.mp hrow)

/-- The rows of the groups together are all rows. -/
theorem Split.sum_lengths {keyOf : Nat → List Cell} {n : Nat}
    (h : groups.Split keyOf (List.range n)) :
    (groups.map fun group => group.2.length).sum = n := by
  have hlength := h.members_perm.length_eq
  rw [List.length_range] at hlength
  rw [← hlength]
  exact List.length_flatMap.symm

/-- The same with the numbers as integers, which are as large as those of 64 bits
get. -/
theorem Split.sum_sizes {keyOf : Nat → List Cell} {n : Nat}
    (h : groups.Split keyOf (List.range n)) (hn : n < 2 ^ 63) :
    ((groups.map fun group => Int64.ofNat group.2.length).map Int64.toInt).sum = n := by
  have hsize : ∀ group ∈ groups,
      (Int64.ofNat group.2.length).toInt = ((group.2.length : Nat) : Int) := by
    intro group hgroup
    have hle : group.2.length ≤ n :=
      h.sum_lengths ▸ List.le_sum_of_mem (List.mem_map_of_mem hgroup)
    exact Int64.toInt_ofNat_of_lt (Nat.lt_of_le_of_lt hle hn)
  rw [List.map_map]
  calc (groups.map (Int64.toInt ∘ fun group => Int64.ofNat group.2.length)).sum
      = ((groups.map fun group => group.2.length).map Nat.cast).sum := by
        rw [List.map_map]
        exact congrArg List.sum (List.map_congr_left hsize)
    _ = (((groups.map fun group => group.2.length).sum : Nat) : Int) :=
        (Nat.cast_list_sum _).symm
    _ = n := congrArg Nat.cast h.sum_lengths

end Groups

/-! ## One row for each group -/

/-- The cell that an argument comes to, a missing one if it comes to none. -/
def Argument.cellOn (a : Argument) (t : Table) (scope : Scope) : Cell :=
  match a.evalFree t scope with
  | .ok (.cell v) => v
  | _ => .missing

theorem Argument.evalFree_cellOn {a : Argument} {t : Table} {scope : Scope}
    (h : ∃ v, a.evalFree t scope = .ok (.cell v)) :
    a.evalFree t scope = .ok (.cell (a.cellOn t scope)) := by
  obtain ⟨v, hv⟩ := h
  rw [cellOn, hv]

namespace Grouped

variable {g : Grouped} {scope : Scope} {columns : List NewColumn} {groups : Groups}

/-- Every expression comes to a cell on every group. -/
def Reduces (g : Grouped) (scope : Scope) (columns : List NewColumn) (groups : Groups) : Prop :=
  ∀ c ∈ columns, ∀ group ∈ groups,
    ∃ v, c.2.evalFree (g.table.gather group.2) (scope.layer Reducer.all) = .ok (.cell v)

/-- The cells of a name: what its last expression comes to on each group. -/
def SummaryCells (g : Grouped) (scope : Scope) (columns : List NewColumn) (groups : Groups)
    (name : String) (vals : List Cell) : Prop :=
  ∃ a, columns.reverse.lookup name = some a ∧ List.Forall₂ (fun group v =>
    a.evalFree (g.table.gather group.2) (scope.layer Reducer.all) = .ok (.cell v)) groups vals

/-- The cell of a name in the row of a group. -/
def rowCell (g : Grouped) (scope : Scope) (columns : List NewColumn)
    (group : List Cell × List Nat) (name : String) : Cell :=
  if name ∈ g.keys then g.table.cellAt (Groups.firstRow group) name
  else lastCell (columns.map fun c =>
    (c.1, c.2.cellOn (g.table.gather group.2) (scope.layer Reducer.all))) name

/-- Every name has its cells. -/
theorem exists_summaryCells (hreduces : g.Reduces scope columns groups) {name : String}
    (h : name ∈ columns.map Prod.fst) : ∃ vals, g.SummaryCells scope columns groups name vals := by
  obtain ⟨a, ha⟩ := exists_lookup_reverse h
  refine ⟨groups.map fun group =>
    a.cellOn (g.table.gather group.2) (scope.layer Reducer.all), a, ha, ?_⟩
  rw [List.forall₂_map_right_iff, List.forall₂_same]
  exact fun group hgroup =>
    Argument.evalFree_cellOn (hreduces _ (mem_of_lookup_reverse ha) group hgroup)

theorem lastCell_columns {group : List Cell × List Nat} {name : String} {a : Argument}
    (h : columns.reverse.lookup name = some a) :
    lastCell (columns.map fun c =>
      (c.1, c.2.cellOn (g.table.gather group.2) (scope.layer Reducer.all))) name =
        a.cellOn (g.table.gather group.2) (scope.layer Reducer.all) := by
  rw [lastCell, ← List.map_reverse,
    lookup_map fun a : Argument => a.cellOn (g.table.gather group.2) (scope.layer Reducer.all), h]
  rfl

/-- Where no name is a key, the cells of a name are those of the rows. -/
theorem summaryCells_iff (hreduces : g.Reduces scope columns groups) {name : String}
    (hfree : name ∉ g.keys) {vals : List Cell} :
    g.SummaryCells scope columns groups name vals ↔
      name ∈ columns.map Prod.fst ∧
        vals = groups.map fun group => g.rowCell scope columns group name := by
  have hcell : ∀ a, columns.reverse.lookup name = some a → ∀ group ∈ groups,
      a.evalFree (g.table.gather group.2) (scope.layer Reducer.all) =
        .ok (.cell (g.rowCell scope columns group name)) := by
    intro a ha group hgroup
    rw [rowCell, if_neg hfree, lastCell_columns ha]
    exact Argument.evalFree_cellOn (hreduces _ (mem_of_lookup_reverse ha) group hgroup)
  constructor
  · rintro ⟨a, ha, hvals⟩
    constructor
    · exact List.mem_map_of_mem (mem_of_lookup_reverse ha)
    · have hrows := hcell a ha
      clear ha hcell hreduces
      induction hvals with
      | nil => rfl
      | @cons group v rest vals hv _ ih =>
          obtain ⟨hrow, hrest⟩ := List.forall_mem_cons.mp hrows
          rw [hv] at hrow
          cases hrow
          rw [List.map_cons, ← ih hrest]
  · rintro ⟨hname, rfl⟩
    obtain ⟨a, ha⟩ := exists_lookup_reverse hname
    refine ⟨a, ha, ?_⟩
    rw [List.forall₂_map_right_iff, List.forall₂_same]
    exact hcell a ha

/-- The table of a group. -/
def summaryRow (g : Grouped) (scope : Scope) (columns : List NewColumn) (p : Partition) :
    Except Error Table :=
  match Dataset.summary scope columns p.table with
  | .error e => .error e
  | .ok t => p.withKeys false g.keys t

theorem summarize_grouped (g : Grouped) (schedule : Schedule) (scope : Scope)
    (columns : List NewColumn) :
    Dataset.summarize schedule scope columns (.grouped g) =
      (g.mapPartitions (g.summaryRow scope columns) schedule).map .plain := rfl

section

variable {keyColumns : List Column}

theorem summary_eq (hreduces : g.Reduces scope columns groups) {group : List Cell × List Nat}
    (hgroup : group ∈ groups) :
    Dataset.summary scope columns (g.table.gather group.2) =
      .ok (Table.oneRow (withoutRepeats (columns.map Prod.fst)) (lastCell (columns.map fun c =>
        (c.1, c.2.cellOn (g.table.gather group.2) (scope.layer Reducer.all))))) :=
  @Table.ofValues_cells Argument
    (fun a => a.evalFree (g.table.gather group.2) (scope.layer Reducer.all))
    (fun a => a.cellOn (g.table.gather group.2) (scope.layer Reducer.all)) columns
    fun c hc => Argument.evalFree_cellOn (hreduces c hc group hgroup)

theorem keyColumns_eq (wf : g.WellFormed)
    (hcolumns : g.table.columnsOf g.keys = .ok keyColumns)
    (hsplit : groups.Split (keyAt keyColumns) (List.range g.table.rows))
    {group : List Cell × List Nat} (hgroup : group ∈ groups) :
    Partition.keyColumns ⟨group.1, g.table.gather group.2⟩ g.keys 1 =
      g.keys.map fun k => (k, .replicate 1 (g.table.cellAt (Groups.firstRow group) k)) := by
  have hzip := @List.zip_map' _ _ _ id (g.table.cellAt (Groups.firstRow group)) g.keys
  rw [List.map_id] at hzip
  rw [Partition.keyColumns, hsplit.key_eq wf hcolumns hgroup, hzip, List.map_map]
  rfl

/-- The row of a group, where no name is a key. -/
theorem summaryRow_eq (wf : g.WellFormed)
    (hcolumns : g.table.columnsOf g.keys = .ok keyColumns)
    (hsplit : groups.Split (keyAt keyColumns) (List.range g.table.rows))
    (hreduces : g.Reduces scope columns groups) (hfree : ∀ c ∈ columns, c.1 ∉ g.keys)
    {group : List Cell × List Nat} (hgroup : group ∈ groups) :
    g.summaryRow scope columns ⟨group.1, g.table.gather group.2⟩ =
      .ok (Table.oneRow (g.keys ++ withoutRepeats (columns.map Prod.fst))
        (g.rowCell scope columns group)) := by
  have hnames : ∀ name ∈ withoutRepeats (columns.map Prod.fst), name ∉ g.keys := by
    intro name hname
    obtain ⟨c, hc, rfl⟩ := List.mem_map.mp (mem_withoutRepeats.mp hname)
    exact hfree c hc
  have hkeys := keyColumns_eq wf hcolumns hsplit hgroup
  rw [summaryRow, summary_eq hreduces hgroup]
  show Table.insertKeys false 0 (Partition.keyColumns _ g.keys 1) _ = _
  rw [hkeys]
  refine (@Table.insertKeys_fresh false [] _ _ _ ?_ ?_ ?_).trans ?_
  · intro k hk
    obtain ⟨name, _, rfl⟩ := List.mem_map.mp hk
    exact Column.length_replicate 1 _
  · rw [List.map_map]
    exact (List.map_id g.keys).symm ▸ wf.keys_nodup
  · intro k hk hmem
    obtain ⟨name, hname, rfl⟩ := List.mem_map.mp hk
    refine hnames name ?_ hname
    rw [List.nil_append, List.map_map] at hmem
    obtain ⟨n, hn, rfl⟩ := List.mem_map.mp hmem
    exact hn
  · rw [Table.oneRow, List.map_append, List.nil_append]
    refine congrArg (fun cs => Except.ok (Table.mk cs (List.range 1))) ?_
    refine congrArg₂ (· ++ ·) ?_ ?_
    · refine List.map_congr_left fun k hk => ?_
      rw [rowCell, if_pos hk]
    · refine List.map_congr_left fun name hname => ?_
      rw [rowCell, if_neg (hnames name hname)]

theorem summaryRow_taken (wf : g.WellFormed)
    (hcolumns : g.table.columnsOf g.keys = .ok keyColumns)
    (hsplit : groups.Split (keyAt keyColumns) (List.range g.table.rows))
    (hreduces : g.Reduces scope columns groups) {c : NewColumn} (hc : c ∈ columns)
    (htaken : c.1 ∈ g.keys) {group : List Cell × List Nat} (hgroup : group ∈ groups) :
    ∃ e, g.summaryRow scope columns ⟨group.1, g.table.gather group.2⟩ = .error e := by
  have hkeys := keyColumns_eq wf hcolumns hsplit hgroup
  rw [summaryRow, summary_eq hreduces hgroup]
  show ∃ e, Table.insertKeys false 0 (Partition.keyColumns _ g.keys 1) _ = _
  rw [hkeys]
  refine Table.insertKeys_taken ⟨_, List.mem_map_of_mem htaken, ?_⟩
  rw [Table.names_oneRow]
  exact mem_withoutRepeats.mpr (List.mem_map_of_mem hc)

theorem nodup_summaryNames (wf : g.WellFormed) (hfree : ∀ c ∈ columns, c.1 ∉ g.keys) :
    (g.keys ++ withoutRepeats (columns.map Prod.fst)).Nodup := by
  refine List.Nodup.append wf.keys_nodup (nodup_withoutRepeats _) fun k hk hname => ?_
  obtain ⟨c, hc, rfl⟩ := List.mem_map.mp (mem_withoutRepeats.mp hname)
  exact hfree c hc hk

/-- Where no name is a key, a summary is the rows of the groups on top of each
other. -/
theorem summarize_eq (wf : g.WellFormed) (hgroups : g.table.groupRows g.keys = .ok groups)
    (hne : groups ≠ []) (hcolumns : g.table.columnsOf g.keys = .ok keyColumns)
    (hsplit : groups.Split (keyAt keyColumns) (List.range g.table.rows))
    (hreduces : g.Reduces scope columns groups) (hfree : ∀ c ∈ columns, c.1 ∉ g.keys)
    (schedule : Schedule) :
    Dataset.summarize schedule scope columns (.grouped g) =
      (Table.stack (groups.map fun group =>
        Table.oneRow (g.keys ++ withoutRepeats (columns.map Prod.fst))
          (g.rowCell scope columns group))).map .plain := by
  have hrows : groups.mapM (fun group =>
      g.summaryRow scope columns ⟨group.1, g.table.gather group.2⟩) =
        .ok (groups.map fun group =>
          Table.oneRow (g.keys ++ withoutRepeats (columns.map Prod.fst))
            (g.rowCell scope columns group)) :=
    mapM_eq_map fun group hgroup => summaryRow_eq wf hcolumns hsplit hreduces hfree hgroup
  rw [summarize_grouped, mapPartitions_eq hgroups hne, Schedule.collect_eq_ok.mpr hrows]
  rfl

/-- The cells of a key have the type of its column. -/
theorem type_rowCell (wf : g.WellFormed)
    (hsplit : groups.Split (keyAt keyColumns) (List.range g.table.rows)) {k : String}
    (hk : k ∈ g.keys) : ∃ type, ∀ v ∈ groups.map (fun group => g.rowCell scope columns group k),
      v.type = type := by
  obtain ⟨c, hc⟩ := Table.exists_find?_of_mem (wf.keys_mem k hk)
  refine ⟨c.type, fun v hv => ?_⟩
  obtain ⟨group, hgroup, rfl⟩ := List.mem_map.mp hv
  have hrow := List.mem_range.mp (hsplit.firstRow_mem hgroup).1
  have hlen : c.length = g.table.rows := wf.table.lengths _ (Table.mem_of_find? hc)
  rw [rowCell, if_pos hk]
  exact Table.type_cellAt hc (hlen ▸ hrow)

/-- The table of a summary: a row for each group in the order of the keys, the
keys in front, and under every name its cells, taken over into one type. -/
structure IsSummary (g : Grouped) (scope : Scope) (columns : List NewColumn) (groups : Groups)
    (t : Table) : Prop where
  labels : t.labels = List.range groups.length
  names : t.names = g.keys ++ withoutRepeats (columns.map Prod.fst)
  keys : t.rowKeys g.keys = .ok (groups.map Prod.fst)
  cells : ∀ name vals, g.SummaryCells scope columns groups name vals →
    ∃ c, t.find? name = some c ∧ c.type = mergedType vals ∧
      c.cells = vals.map (Cell.promote (mergedType vals))

theorem isSummary_of_stack (wf : g.WellFormed) (hne : groups ≠ [])
    (hcolumns : g.table.columnsOf g.keys = .ok keyColumns)
    (hsplit : groups.Split (keyAt keyColumns) (List.range g.table.rows))
    (hreduces : g.Reduces scope columns groups) (hfree : ∀ c ∈ columns, c.1 ∉ g.keys) {t : Table}
    (h : Table.stack (groups.map fun group =>
      Table.oneRow (g.keys ++ withoutRepeats (columns.map Prod.fst))
        (g.rowCell scope columns group)) = .ok t) : g.IsSummary scope columns groups t := by
  have hnodup := nodup_summaryNames wf hfree
  obtain ⟨hlabels, hnames, hcells⟩ := (Table.stack_oneRow hnodup hne).2 t h
  have hrows : t.rows = groups.length := by
    rw [Table.rows, hlabels, List.length_range]
  refine ⟨hlabels, hnames, ?_, fun name vals hvals => ?_⟩
  · -- the cells of a key are of one type already, so they are taken over as they are
    have hkeys : ∀ k ∈ g.keys, ∃ c, t.find? k = some c ∧
        c.cells = groups.map fun group => g.rowCell scope columns group k := by
      intro k hk
      obtain ⟨c, hc, _, hccells⟩ := hcells k (List.mem_append_left _ hk)
      obtain ⟨type, htype⟩ : ∃ type,
          ∀ v ∈ groups.map (fun group => g.rowCell scope columns group k), v.type = type :=
        type_rowCell wf hsplit hk
      have hvals : (groups.map fun group => g.rowCell scope columns group k) ≠ [] :=
        mt List.map_eq_nil_iff.mp hne
      rw [mergedType_of_type hvals htype, Cell.map_promote_of_type htype] at hccells
      exact ⟨c, hc, hccells⟩
    rw [Table.rowKeys_of_cells hrows hkeys]
    refine congrArg Except.ok (List.map_congr_left fun group hgroup => ?_)
    rw [hsplit.key_eq wf hcolumns hgroup]
    exact List.map_congr_left fun k hk => if_pos hk
  · have hname : name ∈ columns.map Prod.fst := by
      obtain ⟨a, ha, _⟩ := hvals
      exact List.mem_map_of_mem (mem_of_lookup_reverse ha)
    have hnokey : name ∉ g.keys := by
      obtain ⟨c, hc, rfl⟩ := List.mem_map.mp hname
      exact hfree c hc
    obtain ⟨_, rfl⟩ := (summaryCells_iff hreduces hnokey).mp hvals
    exact hcells name (List.mem_append_right _ (mem_withoutRepeats.mpr hname))

/-- A summary succeeds exactly if no name is a key and the cells of every name can
be merged. -/
theorem summarize_succeeds (wf : g.WellFormed) (hgroups : g.table.groupRows g.keys = .ok groups)
    (hne : groups ≠ []) (hcolumns : g.table.columnsOf g.keys = .ok keyColumns)
    (hsplit : groups.Split (keyAt keyColumns) (List.range g.table.rows))
    (hreduces : g.Reduces scope columns groups) (schedule : Schedule) :
    (∃ d, Dataset.summarize schedule scope columns (.grouped g) = .ok d) ↔
      (∀ c ∈ columns, c.1 ∉ g.keys) ∧
        ∀ name vals, g.SummaryCells scope columns groups name vals → Mergeable vals := by
  by_cases hfree : ∀ c ∈ columns, c.1 ∉ g.keys
  · have hstack := (@Table.stack_oneRow _ _ _ (g.rowCell scope columns)
      (nodup_summaryNames wf hfree) hne).1
    rw [summarize_eq wf hgroups hne hcolumns hsplit hreduces hfree]
    simp only [map_eq_ok]
    constructor
    · rintro ⟨_, t, ht, _⟩
      refine ⟨hfree, fun name vals hvals => ?_⟩
      obtain ⟨a, ha, _⟩ := id hvals
      have hname : name ∈ columns.map Prod.fst := List.mem_map_of_mem (mem_of_lookup_reverse ha)
      obtain ⟨_, rfl⟩ := (summaryCells_iff hreduces
        (hfree _ (mem_of_lookup_reverse ha))).mp hvals
      exact hstack.mp ⟨t, ht⟩ name (List.mem_append_right _ (mem_withoutRepeats.mpr hname))
    · rintro ⟨_, hmerge⟩
      obtain ⟨t, ht⟩ := hstack.mpr fun name hname => by
        rcases List.mem_append.mp hname with hk | hname
        · obtain ⟨_, htype⟩ := type_rowCell wf hsplit hk
          exact mergeable_of_type htype
        · have hname := mem_withoutRepeats.mp hname
          obtain ⟨c, hc, hcname⟩ := List.mem_map.mp hname
          have hnokey : name ∉ g.keys := hcname ▸ hfree c hc
          exact hmerge name _ ((summaryCells_iff hreduces hnokey).mpr ⟨hname, rfl⟩)
      exact ⟨_, t, ht, rfl⟩
  · refine iff_of_false ?_ fun h => hfree h.1
    -- a name that is a key fails on the first group already
    push Not at hfree
    obtain ⟨c, hc, htaken⟩ := hfree
    rintro ⟨d, hd⟩
    rw [summarize_grouped, mapPartitions_eq hgroups hne] at hd
    obtain ⟨t, ht, _⟩ := map_eq_ok.mp hd
    obtain ⟨tables, htables, _⟩ := bind_eq_ok.mp ht
    have hrows := Schedule.collect_eq_ok.mp htables
    obtain ⟨group, hgroup⟩ := List.exists_mem_of_ne_nil groups hne
    obtain ⟨row, hrow⟩ := mapM_succeeds.mp ⟨tables, hrows⟩ group hgroup
    obtain ⟨e, he⟩ := summaryRow_taken wf hcolumns hsplit hreduces hc htaken hgroup
    rw [hrow] at he
    cases he

/-- The sizes of the groups, where a name asks for them. -/
theorem IsSummary.sizes {t : Table} (h : g.IsSummary scope columns groups t) (hne : groups ≠ [])
    (hsplit : groups.Split (keyAt keyColumns) (List.range g.table.rows))
    (hreduces : g.Reduces scope columns groups) {name : String}
    (hname : columns.reverse.lookup name = some (.text "\x7bn\x7d")) :
    t.find? name = some (.ints (groups.map fun group => Int64.ofNat group.2.length)) := by
  have hbounds : ∀ group ∈ groups, ∀ i ∈ group.2, i < g.table.rows := by
    intro group hgroup i hi
    rw [hsplit.members group hgroup] at hi
    exact List.mem_range.mp (List.mem_filter.mp hi).1
  have hcells : g.SummaryCells scope columns groups name
      (groups.map fun group => Cell.int (Int64.ofNat group.2.length)) := by
    refine ⟨_, hname, ?_⟩
    rw [List.forall₂_map_right_iff, List.forall₂_same]
    intro group hgroup
    obtain ⟨v, hv⟩ := hreduces _ (mem_of_lookup_reverse hname) group hgroup
    have hsize := Scope.eval_rowCount (scope.layer Reducer.all) (g.table.gather group.2)
    rw [Table.rows_gather (hbounds group hgroup)] at hsize
    have hvisible : (g.table.gather group.2).has rowCountName = false := by
      cases hhas : (g.table.gather group.2).has rowCountName with
      | false => rfl
      | true =>
          rw [hhas] at hsize
          cases hsize.symm.trans hv
    rw [hvisible] at hsize
    exact hsize
  obtain ⟨c, hc, htype, hccells⟩ := h.cells name _ hcells
  have hint :
      mergedType (groups.map fun group => Cell.int (Int64.ofNat group.2.length)) = .int := by
    refine mergedType_of_type (mt List.map_eq_nil_iff.mp hne) fun v hv => ?_
    obtain ⟨_, _, rfl⟩ := List.mem_map.mp hv
    rfl
  rw [hint] at htype hccells
  rw [hc]
  refine congrArg some (Column.ext_cells htype ?_)
  rw [hccells, Column.cells, List.map_map, List.map_map]
  rfl

end

end Grouped

/-- The summary of a grouped table. Where every expression comes to a cell on every
group, it succeeds exactly if no name is a key and the cells of every name can be
merged, and it gives a plain table with a row for each group; the numbers of
rows of the groups add up to that of the table. -/
theorem Session.apply_summarize {g : Grouped} (wf : g.WellFormed) (hrows : 0 < g.table.rows)
    (s : Session) (defaults : Options) (columns : List NewColumn) :
    ∃ keyColumns groups, g.table.columnsOf g.keys = .ok keyColumns ∧
      g.table.groupRows g.keys = .ok groups ∧
      groups.Split (keyAt keyColumns) (List.range g.table.rows) ∧
      (groups.map fun group => group.2.length).sum = g.table.rows ∧
      (g.Reduces s.scope columns groups →
        (∀ c ∈ columns, ∃ vals, g.SummaryCells s.scope columns groups c.1 vals) ∧
        ((∃ out, (s.apply defaults (.grouped g) (.summarize columns)).outcome = .ok out) ↔
          (∀ c ∈ columns, c.1 ∉ g.keys) ∧
            ∀ name vals, g.SummaryCells s.scope columns groups name vals → Mergeable vals) ∧
        ∀ out, (s.apply defaults (.grouped g) (.summarize columns)).outcome = .ok out →
          ∃ t, out = .data (.plain t) ∧ g.IsSummary s.scope columns groups t ∧
            ∀ name, columns.reverse.lookup name = some (.text "\x7bn\x7d") →
              ∃ sizes : List Int64, t.find? name = some (.ints sizes) ∧
                sizes = groups.map (fun group => Int64.ofNat group.2.length) ∧
                (g.table.rows < 2 ^ 63 → (sizes.map Int64.toInt).sum = g.table.rows)) := by
  obtain ⟨keyColumns, hcolumns⟩ := Table.exists_columnsOf wf.keys_mem
  obtain ⟨groups, hgroups, hsplit⟩ := Table.groupRows_split hcolumns
  have hne : groups ≠ [] := hsplit.groups_ne_nil (by
    rw [ne_eq, List.range_eq_nil]
    omega)
  have houtcome : (s.apply defaults (.grouped g) (.summarize columns)).outcome =
      (Dataset.summarize (s.scheduleUnder defaults) s.scope columns (.grouped g)).map .data := rfl
  refine ⟨keyColumns, groups, hcolumns, hgroups, hsplit, hsplit.sum_lengths, fun hreduces => ?_⟩
  have hsucceeds := Grouped.summarize_succeeds wf hgroups hne hcolumns hsplit hreduces
    (s.scheduleUnder defaults)
  refine ⟨fun c hc => Grouped.exists_summaryCells hreduces (List.mem_map_of_mem hc), ?_, ?_⟩
  · rw [houtcome, ← hsucceeds]
    constructor
    · rintro ⟨out, hout⟩
      obtain ⟨d, hd, _⟩ := map_eq_ok.mp hout
      exact ⟨d, hd⟩
    · rintro ⟨d, hd⟩
      exact ⟨_, map_eq_ok.mpr ⟨d, hd, rfl⟩⟩
  · intro out hout
    rw [houtcome] at hout
    obtain ⟨d, hd, rfl⟩ := map_eq_ok.mp hout
    have hfree := (hsucceeds.mp ⟨d, hd⟩).1
    rw [Grouped.summarize_eq wf hgroups hne hcolumns hsplit hreduces hfree] at hd
    obtain ⟨t, ht, rfl⟩ := map_eq_ok.mp hd
    have hsummary := Grouped.isSummary_of_stack wf hne hcolumns hsplit hreduces hfree ht
    refine ⟨t, rfl, hsummary, fun name hname => ?_⟩
    refine ⟨_, hsummary.sizes hne hsplit hreduces hname, rfl, hsplit.sum_sizes⟩

/-- Three rows with two keys, counted. -/
theorem Session.apply_summarize_sizes :
    ∃ t, (Session.apply ⟨none, Scope.empty, Draws.first⟩ Options.standard
        (.grouped ⟨⟨[("k", .strs ["b", "a", "b"])], [0, 1, 2]⟩, ["k"]⟩)
        (.summarize [("n", .text "\x7bn\x7d")])).outcome = .ok (.data (.plain t)) ∧
      t.find? "n" = some (.ints [1, 2]) := by
  obtain ⟨_, groups, _, hgroups, _, _, hsummary⟩ :=
    Session.apply_summarize (g := ⟨⟨[("k", .strs ["b", "a", "b"])], [0, 1, 2]⟩, ["k"]⟩)
      ⟨⟨by decide, by decide⟩, by decide, by decide, by decide⟩ (by decide)
      ⟨none, Scope.empty, Draws.first⟩ Options.standard [("n", .text "\x7bn\x7d")]
  have hfound : Table.groupRows ["k"] ⟨[("k", .strs ["b", "a", "b"])], [0, 1, 2]⟩ =
      .ok [([.str "a"], [1]), ([.str "b"], [0, 2])] := by decide
  cases hfound.symm.trans hgroups
  have hcount : ∀ rows, Scope.eval (Scope.empty.layer Reducer.all) "\x7bn\x7d"
      (Table.gather rows ⟨[("k", .strs ["b", "a", "b"])], [0, 1, 2]⟩) =
        .ok (.cell (.int (Int64.ofNat (pick rows [0, 1, 2]).length))) := by
    intro rows
    rw [Scope.eval_rowCount]
    rfl
  obtain ⟨_, hsucceeds, hresult⟩ := hsummary fun c hc group _ => by
    cases List.mem_singleton.mp hc
    exact ⟨_, hcount group.2⟩
  obtain ⟨out, hout⟩ := hsucceeds.mpr (by
    refine ⟨by decide, fun name vals hvals => ?_⟩
    obtain ⟨a, ha, hvals⟩ := hvals
    cases List.mem_singleton.mp (mem_of_lookup_reverse ha)
    rcases hvals with _ | ⟨hfirst, _ | ⟨hsecond, _ | _⟩⟩
    cases (hcount _).symm.trans hfirst
    cases (hcount _).symm.trans hsecond
    refine .inr (.inr fun v hv _ => .inl ?_)
    rcases List.mem_pair.mp hv with rfl | rfl <;> rfl)
  obtain ⟨t, rfl, _, hsizes⟩ := hresult out hout
  obtain ⟨_, ht, rfl, _⟩ := hsizes "n" (by decide)
  exact ⟨t, hout, ht⟩

end TableVerbs
