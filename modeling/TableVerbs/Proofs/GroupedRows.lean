import TableVerbs.Proofs.GroupOrder
import TableVerbs.Proofs.PickedTables
import TableVerbs.Proofs.Schedules
import TableVerbs.Session

/-!
# Grouping puts rows in the order of their keys

Taking a grouped table apart and putting the parts back together unchanged sorts
it by its keys, and stably. No row is lost or changed on the way, and no type.
Cutting every part to its first or last rows first keeps those rows of the
sorted table whose rank within their key is low enough, which may be none.
-/

namespace TableVerbs

/-- The key tuple of every row in the columns of these names. -/
def Table.rowKeys (names : List String) (t : Table) : Except Error (List (List Cell)) :=
  (t.columnsOf names).map (keyRows t.rows)

namespace Table

variable {t : Table} {names : List String} {columns : List Column}

theorem column_eq_ok {name : String} {c : Column} :
    t.column name = .ok c ↔ t.find? name = some c := by
  rw [column]
  cases t.find? name with
  | none => exact ⟨fun h => (by cases h), fun h => (by cases h)⟩
  | some d => exact ok_eq_ok_iff

theorem column_gather {name : String} {c : Column} (h : t.column name = .ok c)
    (positions : List Nat) : (t.gather positions).column name = .ok (c.take positions) := by
  rw [column_eq_ok] at h ⊢
  rw [find?_gather, h]
  rfl

theorem columnsOf_gather (h : t.columnsOf names = .ok columns) (positions : List Nat) :
    (t.gather positions).columnsOf names = .ok (columns.map fun c => c.take positions) := by
  rw [columnsOf, mapM_eq_ok, List.forall₂_map_right_iff]
  exact (mapM_eq_ok.mp h).imp fun name c hc => column_gather hc positions

theorem columnsOf_length (wf : t.WellFormed) (h : t.columnsOf names = .ok columns) :
    ∀ c ∈ columns, c.length = t.rows := by
  intro c hc
  obtain ⟨name, _, hname⟩ := mem_of_mapM h hc
  exact wf.lengths _ (mem_of_find? (column_eq_ok.mp hname))

theorem exists_columnsOf (h : ∀ name ∈ names, name ∈ t.names) :
    ∃ columns, t.columnsOf names = .ok columns := by
  refine mapM_succeeds.mpr fun name hname => ?_
  obtain ⟨c, hc⟩ := exists_find?_of_mem (h name hname)
  exact ⟨c, column_eq_ok.mpr hc⟩

/-- The key of a picked row is the one that it had. -/
theorem keyAt_take (hlen : ∀ c ∈ columns, c.length = t.rows) {positions : List Nat}
    (hbounds : ∀ i ∈ positions, i < t.rows) {i : Nat} (hi : i < positions.length) :
    keyAt (columns.map fun c => c.take positions) i = keyAt columns positions[i] := by
  rw [keyAt, List.filterMap_map]
  refine List.filterMap_congr fun c hc => ?_
  show (c.take positions).cells[i]? = c.cells[positions[i]]?
  rw [Column.cells_take, getElem?_pick, List.getElem?_eq_getElem hi, Option.bind_some]
  rw [Column.length_cells, hlen c hc]
  exact hbounds

theorem rowKeys_gather (wf : t.WellFormed) (h : t.columnsOf names = .ok columns)
    {positions : List Nat} (hbounds : ∀ i ∈ positions, i < t.rows) :
    (t.gather positions).rowKeys names = .ok (positions.map (keyAt columns)) := by
  have hlengths := columnsOf_length wf h
  rw [rowKeys, columnsOf_gather h, rows_gather hbounds]
  refine congrArg Except.ok ?_
  rw [keyRows_eq_map]
  refine List.ext_getElem (by simp) fun i hi _ => ?_
  rw [List.length_map, List.length_range] at hi
  rw [List.getElem_map, List.getElem_map, List.getElem_range]
  exact keyAt_take hlengths hbounds hi

end Table

/-! ## Partitions put back together -/

namespace Grouped

variable {g : Grouped} {groups : Groups}

/-- With rows there are groups, and changing partitions is changing groups. -/
theorem mapPartitions_eq (hgroups : g.table.groupRows g.keys = .ok groups) (hne : groups ≠ [])
    (f : Partition → Except Error Table) (schedule : Schedule) :
    g.mapPartitions f schedule =
      (schedule.collect (groups.map fun group => f ⟨group.1, g.table.gather group.2⟩)).bind
        Table.stack := by
  have hpartitions : g.partitions =
      .ok (groups.map fun group => ⟨group.1, g.table.gather group.2⟩) := by
    rw [partitions, hgroups]
    rfl
  have houtcomes : (groups.map fun group =>
      Partition.mk group.1 (g.table.gather group.2)).map f =
        groups.map fun group => f ⟨group.1, g.table.gather group.2⟩ := List.map_map
  obtain ⟨first, rest, rfl⟩ := List.exists_cons_of_ne_nil hne
  rw [mapPartitions, hpartitions]
  simp only [List.map_cons] at houtcomes ⊢
  rw [houtcomes]
  cases schedule.collect (f ⟨first.1, g.table.gather first.2⟩ ::
    rest.map fun group => f ⟨group.1, g.table.gather group.2⟩) <;> rfl

/-- Partitions cut down to some of their rows, stacked, are one pick of the
table. -/
theorem mapPartitions_gather (wf : g.WellFormed)
    (hgroups : g.table.groupRows g.keys = .ok groups) (hne : groups ≠ [])
    {f : Table → Table} {cut : List Nat → List Nat} (hcut : ∀ rows, cut rows ⊆ rows)
    (hf : ∀ rows, (∀ i ∈ rows, i < g.table.rows) →
      f (g.table.gather rows) = g.table.gather (cut rows)) (schedule : Schedule) :
    g.mapPartitions (fun p => .ok (f p.table)) schedule =
      .ok (g.table.gather (groups.flatMap fun group => cut group.2)).relabelled := by
  have hbounds := Table.groupRows_bounds hgroups
  have hstack := @Table.stack_gather g.table wf.table (groups.map fun group => cut group.2)
    (mt List.map_eq_nil_iff.mp hne) fun positions hpositions i hi => by
      obtain ⟨group, hgroup, rfl⟩ := List.mem_map.mp hpositions
      exact hbounds group hgroup i (hcut group.2 hi)
  have htables : groups.mapM (fun group =>
      (.ok (f (g.table.gather group.2)) : Except Error Table)) =
        .ok (groups.map fun group => g.table.gather (cut group.2)) := by
    refine mapM_eq_map fun group hgroup => ?_
    rw [hf group.2 (hbounds group hgroup)]
  rw [mapPartitions_eq hgroups hne, Schedule.collect_eq_ok.mpr htables]
  rw [List.map_map] at hstack
  exact hstack

/-- A table with all names of a grouped one can be grouped by the same keys. -/
theorem WellFormed.ofKeys_eq (wf : g.WellFormed) {t : Table} (h : t.names = g.table.names) :
    ofKeys t g.keys = .ok ⟨t, g.keys⟩ := by
  refine ofKeys_eq_ok.mpr ⟨wf.keys_ne_nil, fun k hk => h ▸ wf.keys_mem k hk, ?_⟩
  rw [withoutRepeats_of_nodup wf.keys_nodup]

/-- A verb that cuts every partition down leaves one pick of the table, under the
same keys. -/
theorem perGroup_gather (wf : g.WellFormed) (hrows : 0 < g.table.rows)
    (hgroups : g.table.groupRows g.keys = .ok groups) (hne : groups ≠ [])
    {f : Table → Table} {cut : List Nat → List Nat} (hcut : ∀ rows, cut rows ⊆ rows)
    (hf : ∀ rows, (∀ i ∈ rows, i < g.table.rows) →
      f (g.table.gather rows) = g.table.gather (cut rows)) (schedule : Schedule) :
    (Dataset.grouped g).perGroup schedule f =
      .ok (.grouped ⟨(g.table.gather (groups.flatMap fun group => cut group.2)).relabelled,
        g.keys⟩) := by
  have hmap := mapPartitions_gather wf hgroups hne hcut hf schedule
  have hkeys := wf.ofKeys_eq (t := (g.table.gather
    (groups.flatMap fun group => cut group.2)).relabelled) Table.names_gather
  rw [Dataset.perGroup, if_neg (by omega), hmap]
  simp only [hkeys]
  rfl

end Grouped

/-- Grouping and sorting agree. The rows of all partitions, put back together, are
the table in the order in which sorting by the key columns puts it, which holds
every row once; and the first or last rows of the groups are those rows of the
sorted table that are ranked below the number among the rows of their key. The
columns keep their names and types. -/
theorem Session.grouping_sorts {g : Grouped} (wf : g.WellFormed) (hrows : 0 < g.table.rows)
    (s : Session) (defaults : Options) :
    ∃ columns positions keys, g.table.columnsOf g.keys = .ok columns ∧
      g.table.sortPositions columns = .ok positions ∧
      positions.Perm (List.range g.table.rows) ∧ positions.Pairwise (Precedes (keyAt columns)) ∧
      (g.table.gather positions).rowKeys g.keys = .ok keys ∧
      (g.table.gather positions).schema = g.table.schema ∧
      (∀ schedule, g.mapPartitions (fun p => .ok p.table) schedule =
        .ok (g.table.gather positions).relabelled) ∧
      ∀ n,
        (∃ kept,
          (g.table.gather positions).filter (below n (ranksFromStart [] keys)) = .ok kept ∧
          kept.schema = g.table.schema ∧
          s.apply defaults (.grouped g) (.head n) =
            .untouched (.grouped g) (.ok (.data (.grouped ⟨kept.relabelled, g.keys⟩)))) ∧
        ∃ kept,
          (g.table.gather positions).filter (below n (ranksFromEnd keys)) = .ok kept ∧
          kept.schema = g.table.schema ∧
          s.apply defaults (.grouped g) (.tail n) =
            .untouched (.grouped g) (.ok (.data (.grouped ⟨kept.relabelled, g.keys⟩))) := by
  obtain ⟨columns, hcolumns⟩ := Table.exists_columnsOf wf.keys_mem
  obtain ⟨groups, hgroups, hsplit⟩ := Table.groupRows_split hcolumns
  have hne : groups ≠ [] := hsplit.groups_ne_nil (by
    rw [ne_eq, List.range_eq_nil]
    omega)
  have hpositions := Table.sortPositions_eq (Table.columnsOf_length wf.table hcolumns)
  rw [← hsplit.members_eq] at hpositions
  have hbounds : ∀ i ∈ groups.members, i < g.table.rows :=
    fun i hi => List.mem_range.mp (hsplit.mem_members.mp hi)
  refine ⟨columns, groups.members, groups.members.map (keyAt columns), hcolumns, hpositions,
    hsplit.members_perm, hsplit.pairwise_members, Table.rowKeys_gather wf.table hcolumns hbounds,
    Table.schema_gather, ?_, fun n => ⟨?_, ?_⟩⟩
  · exact Grouped.mapPartitions_gather (f := id) wf hgroups hne (fun _ => List.Subset.refl _)
      fun _ _ => rfl
  · have hmask : (below n (ranksFromStart [] (groups.members.map (keyAt columns)))).length =
        groups.members.length := by
      rw [below, List.length_map, length_ranksFromStart, List.length_map]
    have hmarked := @Groups.marked_start (keyAt columns) groups n [] hsplit.ascending
      hsplit.keyed fun _ _ _ h => by cases h
    refine ⟨_, Table.filter_gather wf.table hbounds hmask, Table.schema_gather, ?_⟩
    have hhead := Grouped.perGroup_gather wf hrows hgroups hne (fun _ => List.take_subset n _)
      (fun rows hin => Table.head_gather wf.table hin n) (s.scheduleUnder defaults)
    rw [hmarked]
    exact congrArg (fun out => Applied.untouched _ (out.map Output.data)) hhead
  · have hmask : (below n (ranksFromEnd (groups.members.map (keyAt columns)))).length =
        groups.members.length := by
      rw [below, List.length_map, length_ranksFromEnd, List.length_map]
    refine ⟨_, Table.filter_gather wf.table hbounds hmask, Table.schema_gather, ?_⟩
    have htail := Grouped.perGroup_gather wf hrows hgroups hne (fun _ => List.drop_subset _ _)
      (fun rows hin => Table.tail_gather wf.table hin n) (s.scheduleUnder defaults)
    rw [Groups.marked_end n hsplit.ascending hsplit.keyed]
    exact congrArg (fun out => Applied.untouched _ (out.map Output.data)) htail

/-- Three rows with two keys, sorted by taking them apart. -/
theorem Session.grouping_sorts_three :
    ∃ positions,
      Table.sortPositions [.strs ["b", "a", "b"]]
        ⟨[("k", .strs ["b", "a", "b"])], [0, 1, 2]⟩ = .ok positions ∧
      Grouped.mapPartitions ⟨⟨[("k", .strs ["b", "a", "b"])], [0, 1, 2]⟩, ["k"]⟩
        (fun p => .ok p.table) (fun n => .last n) =
          .ok (Table.gather positions ⟨[("k", .strs ["b", "a", "b"])], [0, 1, 2]⟩).relabelled := by
  obtain ⟨columns, positions, _, hcolumns, hpositions, _, _, _, _, hmap, _⟩ :=
    Session.grouping_sorts (g := ⟨⟨[("k", .strs ["b", "a", "b"])], [0, 1, 2]⟩, ["k"]⟩)
      ⟨⟨by decide, by decide⟩, by decide, by decide, by decide⟩ (by decide)
      ⟨none, Scope.empty, Draws.first⟩ Options.standard
  cases (show Except.ok [Column.strs ["b", "a", "b"]] = Except.ok columns from hcolumns)
  exact ⟨positions, hpositions, hmap _⟩

end TableVerbs
