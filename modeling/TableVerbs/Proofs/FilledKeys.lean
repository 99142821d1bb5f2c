import TableVerbs.Proofs.StackedTables
import TableVerbs.Proofs.Summaries

/-!
# Computing groups anew

A computation on a group may return the key columns or leave them out, some or all
of them, and need not do the same on every group. A key column that is missing is
filled with the key of the group, and one that is there is not looked at. Filling
never fails, so a computation on groups fails where it fails on a group, or where the
tables that it gives are not alike once they are filled.
-/

namespace TableVerbs

namespace Table

/-- What a table is once its keys are filled in: it has its own columns, a key that it
lacks in every row, and keys in front if it lacks all of them. -/
structure Filled (keys : List String) (key : List Cell) (u v : Table) : Prop where
  labels : v.labels = u.labels
  find : ∀ name, v.find? name =
    (u.find? name).or (((keys.zip key).lookup name).map (Column.replicate u.rows))
  leading : (∀ k ∈ keys, k ∉ u.names) → v.names = keys ++ u.names

variable {t t' : Table}

theorem find?_insertColumn {place : Nat} {name : String} {c : Column}
    (h : t.insertColumn place name c = .ok t') (other : String) :
    t'.find? other = if other = name then some c else t.find? other := by
  rw [insertColumn] at h
  split at h
  · cases h
  next hhas =>
    split at h
    · cases h
    cases h
    have hsplit : t.find? other =
        ((t.columns.take place).lookup other).or ((t.columns.drop place).lookup other) := by
      rw [← List.lookup_append, List.take_append_drop]
      rfl
    show (t.columns.take place ++ (name, c) :: t.columns.drop place).lookup other = _
    rw [List.lookup_append, lookup_cons_if, hsplit]
    split
    next hname =>
      -- the name is new, so nothing is found in front of it
      have hnone : t.find? other = none :=
        find?_eq_none fun hmem => hhas (has_iff.mpr (hname ▸ hmem))
      rw [hsplit, Option.or_eq_none_iff] at hnone
      rw [hnone.1, Option.none_or]
    next => rfl

/-- Putting in keys that are missing always succeeds. -/
theorem insertKeys_missing {columns : List (String × Column)}
    (hlengths : ∀ k ∈ columns, k.2.length = t.rows) (place : Nat) :
    ∃ v, t.insertKeys true place columns = .ok v ∧ v.labels = t.labels ∧
      ∀ name, v.find? name = (t.find? name).or (columns.lookup name) := by
  induction columns generalizing t place with
  | nil => exact ⟨t, rfl, rfl, fun name => by rw [List.lookup_nil, Option.or_none]⟩
  | cons key rest ih =>
      obtain ⟨name, c⟩ := key
      obtain ⟨hlength, hlengths⟩ := List.forall_mem_cons.mp hlengths
      rw [insertKeys, Bool.true_and]
      cases hhas : t.has name with
      | true =>
          rw [if_pos rfl]
          obtain ⟨v, hv, hlabels, hfind⟩ := ih hlengths (place + 1)
          refine ⟨v, hv, hlabels, fun other => ?_⟩
          rw [hfind, lookup_cons_if]
          split
          · next hother =>
              obtain ⟨d, hd⟩ := exists_find?_of_mem (has_iff.mp hhas)
              rw [hother, hd]
              rfl
          · rfl
      | false =>
          have hinsert : t.insertColumn place name c =
              .ok ⟨t.columns.take place ++ (name, c) :: t.columns.drop place, t.labels⟩ := by
            rw [insertColumn, hhas, if_neg Bool.false_ne_true, if_neg (not_not.mpr hlength)]
          have hnone : t.find? name = none :=
            find?_eq_none fun hmem => by rw [has_iff.mpr hmem] at hhas; cases hhas
          obtain ⟨v, hv, hlabels, hfind⟩ :=
            @ih ⟨t.columns.take place ++ (name, c) :: t.columns.drop place, t.labels⟩ hlengths
              (place + 1)
          refine ⟨v, ?_, hlabels, fun other => ?_⟩
          · rw [if_neg Bool.false_ne_true, hinsert]
            exact hv
          · rw [hfind, find?_insertColumn hinsert, lookup_cons_if]
            split
            next hother => rw [hother, hnone, Option.some_or, Option.none_or]
            next => rfl

end Table

namespace Partition

variable {p : Partition} {keys : List String}

theorem names_keyColumns (h : p.key.length = keys.length) (rows : Nat) :
    (p.keyColumns keys rows).map Prod.fst = keys := by
  rw [keyColumns, List.map_map]
  exact List.map_fst_zip h.ge

/-- What is computed from a group can be filled in with its keys. -/
theorem exists_filled (hkeys : keys.Nodup) (hlen : p.key.length = keys.length) (u : Table) :
    ∃ v, p.withKeys true keys u = .ok v ∧ Table.Filled keys p.key u v := by
  have hlengths : ∀ k ∈ p.keyColumns keys u.rows, k.2.length = u.rows := by
    intro k hk
    obtain ⟨pair, _, rfl⟩ := List.mem_map.mp hk
    exact Column.length_replicate u.rows pair.2
  have hnames := names_keyColumns hlen u.rows
  obtain ⟨v, hv, hlabels, hfind⟩ := Table.insertKeys_missing hlengths 0
  refine ⟨v, hv, hlabels, fun name => ?_, fun hfree => ?_⟩
  · rw [hfind, keyColumns, lookup_map]
  · have hfresh : ∀ k ∈ p.keyColumns keys u.rows, k.1 ∉ u.columns.map Prod.fst :=
      fun k hk => hfree k.1 (hnames ▸ List.mem_map_of_mem hk)
    have hfront := @Table.insertKeys_fresh true [] (p.keyColumns keys u.rows) u.columns u.labels
      hlengths (hnames.symm ▸ hkeys) hfresh
    have hsame : v = ⟨p.keyColumns keys u.rows ++ u.columns, u.labels⟩ :=
      Except.ok.inj (hv.symm.trans hfront)
    rw [hsame, Table.names, List.map_append, hnames]
    rfl

end Partition

namespace Table

variable {keys : List String} {key : List Cell} {u v : Table}

/-- A filled table has all keys. -/
theorem Filled.mem_names (h : Filled keys key u v) (hlen : key.length = keys.length)
    {k : String} (hk : k ∈ keys) : k ∈ v.names := by
  have hpair : k ∈ (keys.zip key).map Prod.fst := by
    rw [List.map_fst_zip hlen.ge]
    exact hk
  obtain ⟨pair, hmem, rfl⟩ := List.mem_map.mp hpair
  have hsome : ((keys.zip key).lookup pair.1).isSome = true :=
    List.lookup_isSome_iff.mpr ⟨pair, hmem, beq_self_eq_true pair.1⟩
  refine mem_names_iff.mpr (Option.isSome_iff_exists.mp ?_)
  rw [h.find, Option.isSome_or, Option.isSome_map, hsome, Bool.or_true]

/-- Whether tables have a stack depends on what is found in them. -/
theorem exists_stack_congr {tables tables' : List Table} (hne : tables ≠ [])
    (h : tables.map find? = tables'.map find?) :
    (∃ t, stack tables = .ok t) ↔ ∃ t, stack tables' = .ok t := by
  have hne' : tables' ≠ [] := by
    rintro rfl
    exact hne (List.map_eq_nil_iff.mp h)
  have hfinds : ∀ ts : List Table,
      ((∀ u ∈ ts, ∀ u' ∈ ts, ∀ name, name ∈ u.names ↔ name ∈ u'.names) ∧
        ∀ name, Column.Stackable (ts.filterMap fun u => u.find? name)) ↔
      (∀ f ∈ ts.map find?, ∀ f' ∈ ts.map find?, ∀ name,
          (∃ c, f name = some c) ↔ ∃ c, f' name = some c) ∧
        ∀ name, Column.Stackable ((ts.map find?).filterMap fun f => f name) := by
    intro ts
    simp only [List.forall_mem_map, List.filterMap_map, mem_names_iff]
    rfl
  rw [exists_stack_iff hne, exists_stack_iff hne', hfinds, hfinds, h]

end Table

namespace Grouped

/-- The tables that are computed from groups, and what they are once filled. -/
structure ComputedBy (g : Grouped) (c : Computation) (groups : Groups)
    (results filled : List Table) : Prop where
  runs : List.Forall₂ (fun group u => c.run (g.table.gather group.2) = .ok u) groups results
  fills : List.Forall₂ (fun done v => Table.Filled g.keys done.1.1 done.2 v)
    (groups.zip results) filled

variable {g : Grouped} {c : Computation} {groups : Groups} {results filled filled' : List Table}

theorem ComputedBy.finds (h : g.ComputedBy c groups results filled) :
    filled.map Table.find? = (groups.zip results).map fun done name =>
      (done.2.find? name).or
        (((g.keys.zip done.1.1).lookup name).map (Column.replicate done.2.rows)) := by
  have hall : List.Forall₂ Eq (((groups.zip results).map fun done name =>
      (done.2.find? name).or
        (((g.keys.zip done.1.1).lookup name).map (Column.replicate done.2.rows))))
      (filled.map Table.find?) := by
    rw [List.forall₂_map_left_iff, List.forall₂_map_right_iff]
    exact h.fills.imp fun done v hv => funext fun name => (hv.find name).symm
  rw [List.forall₂_eq_eq_eq] at hall
  exact hall.symm

/-- What replaces a partition. -/
def computed (g : Grouped) (c : Computation) (p : Partition) : Except Error Table :=
  match c.run p.table with
  | .error e => .error e
  | .ok t => p.withKeys true g.keys t

theorem computed_eq_ok {p : Partition} {v : Table} :
    g.computed c p = .ok v ↔ ∃ u, c.run p.table = .ok u ∧ p.withKeys true g.keys u = .ok v := by
  rw [computed]
  cases c.run p.table <;> simp

/-- Where all groups are computed, they are filled as well. -/
theorem exists_computedBy (hkeys : g.keys.Nodup)
    (hlen : ∀ group ∈ groups, group.1.length = g.keys.length)
    (h : List.Forall₂ (fun group u => c.run (g.table.gather group.2) = .ok u) groups results) :
    ∃ filled, groups.mapM (fun group => g.computed c ⟨group.1, g.table.gather group.2⟩) =
      .ok filled ∧ g.ComputedBy c groups results filled := by
  simp only [mapM_eq_ok]
  induction h with
  | nil => exact ⟨[], .nil, .nil, .nil⟩
  | @cons group u groups results hrun _ ih =>
      obtain ⟨hgroup, hrest⟩ := List.forall_mem_cons.mp hlen
      obtain ⟨filled, hall, hruns, hfills⟩ := ih hrest
      obtain ⟨v, hv, hfilled⟩ :=
        @Partition.exists_filled ⟨group.1, g.table.gather group.2⟩ g.keys hkeys hgroup u
      exact ⟨v :: filled, .cons (computed_eq_ok.mpr ⟨u, hrun, hv⟩) hall, .cons hrun hruns,
        .cons hfilled hfills⟩

theorem computedBy_of_ok (hkeys : g.keys.Nodup)
    (hlen : ∀ group ∈ groups, group.1.length = g.keys.length)
    (h : groups.mapM (fun group => g.computed c ⟨group.1, g.table.gather group.2⟩) = .ok filled) :
    ∃ results, g.ComputedBy c groups results filled := by
  have hruns : ∃ results,
      List.Forall₂ (fun group u => c.run (g.table.gather group.2) = .ok u) groups results := by
    simp only [← mapM_eq_ok, mapM_succeeds]
    intro group hgroup
    obtain ⟨v, hv⟩ := mapM_succeeds.mp ⟨filled, h⟩ group hgroup
    obtain ⟨u, hu, _⟩ := computed_eq_ok.mp hv
    exact ⟨u, hu⟩
  obtain ⟨results, hruns⟩ := hruns
  obtain ⟨_, hall, hcomputed⟩ := exists_computedBy hkeys hlen hruns
  cases h.symm.trans hall
  exact ⟨results, hcomputed⟩

theorem ComputedBy.totalSize_eq (h : g.ComputedBy c groups results filled) :
    totalSize Table.rows filled = totalSize Table.rows results := by
  obtain ⟨hruns, hfills⟩ := h
  induction hruns generalizing filled with
  | nil =>
      cases hfills
      rfl
  | cons _ _ ih =>
      obtain ⟨v, rest, hv, hrest, rfl⟩ := List.forall₂_cons_left_iff.mp hfills
      rw [totalSize, totalSize, ih hrest, Table.rows, hv.labels]
      rfl

theorem ComputedBy.head (h : g.ComputedBy c groups results filled) (hne : groups ≠ []) :
    ∃ group ∈ groups, ∃ u v, results.head? = some u ∧ filled.head? = some v ∧
      Table.Filled g.keys group.1 u v := by
  obtain ⟨hruns, hfills⟩ := h
  cases hruns with
  | nil => exact absurd rfl hne
  | @cons group u groups results _ _ =>
      obtain ⟨v, rest, hv, _, rfl⟩ := List.forall₂_cons_left_iff.mp hfills
      exact ⟨group, List.mem_cons_self, u, v, rfl, rfl, hv⟩

theorem ComputedBy.ne_nil (h : g.ComputedBy c groups results filled) (hne : groups ≠ []) :
    filled ≠ [] := by
  obtain ⟨_, _, _, v, _, hv, _⟩ := h.head hne
  exact List.ne_nil_of_mem (List.mem_of_head? hv)

theorem wellFormed_computed (wf : g.table.WellFormed) (hc : c.Trusted)
    (h : groups.mapM (fun group => g.computed c ⟨group.1, g.table.gather group.2⟩) = .ok filled) :
    ∀ v ∈ filled, v.WellFormed := by
  intro v hv
  obtain ⟨group, _, hgroup⟩ := mem_of_mapM h hv
  obtain ⟨u, hu, hkeys⟩ := computed_eq_ok.mp hgroup
  exact (Computation.wellFormed_run hc (wf.gather group.2) hu).insertKeys hkeys

/-- Where the filled tables have a stack, it can be grouped by the keys. -/
theorem ofKeys_stack (wf : g.WellFormed) (hne : groups ≠ [])
    (hlen : ∀ group ∈ groups, group.1.length = g.keys.length)
    (h : g.ComputedBy c groups results filled) {t : Table}
    (hnames : filled.head?.map Table.names = some t.names) :
    Grouped.ofKeys t g.keys = .ok ⟨t, g.keys⟩ := by
  obtain ⟨group, hgroup, u, v, _, hv, hfilled⟩ := h.head hne
  rw [hv] at hnames
  have hsame : v.names = t.names := Option.some.inj hnames
  refine ofKeys_eq_ok.mpr ⟨wf.keys_ne_nil, fun k hk => ?_, ?_⟩
  · rw [← hsame]
    exact hfilled.mem_names (hlen group hgroup) hk
  · rw [withoutRepeats_of_nodup wf.keys_nodup]

/-- The groups are computed and filled and the tables stacked; grouping the stack again
cannot fail. -/
theorem compute_eq_ok (wf : g.WellFormed) (hc : c.Trusted)
    (hgroups : g.table.groupRows g.keys = .ok groups) (hne : groups ≠ [])
    (hlen : ∀ group ∈ groups, group.1.length = g.keys.length) {schedule : Schedule}
    {d : Dataset} :
    (Dataset.grouped g).compute schedule c = .ok d ↔ ∃ filled t,
      groups.mapM (fun group => g.computed c ⟨group.1, g.table.gather group.2⟩) = .ok filled ∧
        Table.stack filled = .ok t ∧ .grouped ⟨t, g.keys⟩ = d := by
  have hregroup : ∀ {filled t},
      groups.mapM (fun group => g.computed c ⟨group.1, g.table.gather group.2⟩) = .ok filled →
        Table.stack filled = .ok t → ofKeys t g.keys = .ok ⟨t, g.keys⟩ := by
    intro filled t hall ht
    obtain ⟨results, hcomputed⟩ := computedBy_of_ok wf.keys_nodup hlen hall
    have hstack := Table.stackOf_stack (wellFormed_computed wf.table hc hall)
      (hcomputed.ne_nil hne) ht
    exact ofKeys_stack wf hne hlen hcomputed hstack.names
  have hcompute : (Dataset.grouped g).compute schedule c =
      (g.mapPartitions (g.computed c) schedule).bind
        fun t => (ofKeys t g.keys).map .grouped := by
    show (match g.mapPartitions (g.computed c) schedule with
      | .error e => (.error e : Except Error Dataset)
      | .ok t => (ofKeys t g.keys).map Dataset.grouped) = _
    cases g.mapPartitions (g.computed c) schedule <;> rfl
  rw [hcompute, mapPartitions_eq hgroups hne]
  simp only [bind_eq_ok, Schedule.collect_eq_ok]
  constructor
  · rintro ⟨t, ⟨filled, hall, ht⟩, hd⟩
    rw [hregroup hall ht] at hd
    exact ⟨filled, t, hall, ht, Except.ok.inj hd⟩
  · rintro ⟨filled, t, hall, ht, rfl⟩
    exact ⟨t, ⟨filled, hall, ht⟩, congrArg (Except.map Dataset.grouped) (hregroup hall ht)⟩

end Grouped

/-- A computation on the groups of a table keeps the keys that it returns and gets those
that it leaves out. It succeeds exactly if it does on every group and the tables that
it gives are alike once their keys are filled in. The result is grouped as before; its
rows are those that were computed, one group after the other in the order of their
keys, and where no key was returned the keys are in front. -/
theorem Session.apply_compute {g : Grouped} (wf : g.WellFormed) (hrows : 0 < g.table.rows)
    (s : Session) (defaults : Options) {c : Computation} (hc : c.Trusted) :
    ∃ keyColumns groups, g.table.columnsOf g.keys = .ok keyColumns ∧
      g.table.groupRows g.keys = .ok groups ∧
      groups.Split (keyAt keyColumns) (List.range g.table.rows) ∧
      ((∃ out, (s.apply defaults (.grouped g) (.compute c)).outcome = .ok out) ↔
        ∃ results filled, g.ComputedBy c groups results filled ∧
          (∀ v ∈ filled, ∀ v' ∈ filled, ∀ name, name ∈ v.names ↔ name ∈ v'.names) ∧
          ∀ name, Column.Stackable (filled.filterMap fun v => v.find? name)) ∧
      ∀ out, (s.apply defaults (.grouped g) (.compute c)).outcome = .ok out →
        ∃ results filled t, g.ComputedBy c groups results filled ∧
          out = .data (.grouped ⟨t, g.keys⟩) ∧ Table.StackOf filled t ∧
          t.rows = totalSize Table.rows results ∧
          ((∀ u ∈ results, ∀ k ∈ g.keys, k ∉ u.names) →
            ∀ first, results.head? = some first → t.names = g.keys ++ first.names) := by
  obtain ⟨keyColumns, hcolumns⟩ := Table.exists_columnsOf wf.keys_mem
  obtain ⟨groups, hgroups, hsplit⟩ := Table.groupRows_split hcolumns
  have hne : groups ≠ [] := hsplit.groups_ne_nil (by
    rw [ne_eq, List.range_eq_nil]
    omega)
  have hlen : ∀ group ∈ groups, group.1.length = g.keys.length := by
    intro group hgroup
    rw [hsplit.key_eq wf hcolumns hgroup, List.length_map]
  have houtcome : ∀ {out}, (s.apply defaults (.grouped g) (.compute c)).outcome = .ok out ↔
      ∃ d, (Dataset.grouped g).compute (s.scheduleUnder defaults) c = .ok d ∧ .data d = out :=
    map_eq_ok
  simp only [houtcome, Grouped.compute_eq_ok wf hc hgroups hne hlen]
  refine ⟨keyColumns, groups, hcolumns, hgroups, hsplit, ⟨?_, ?_⟩, ?_⟩
  · rintro ⟨_, _, ⟨filled, t, hall, ht, _⟩, _⟩
    obtain ⟨results, hcomputed⟩ := Grouped.computedBy_of_ok wf.keys_nodup hlen hall
    exact ⟨results, filled, hcomputed, (Table.exists_stack_iff (hcomputed.ne_nil hne)).mp ⟨t, ht⟩⟩
  · rintro ⟨results, filled', hcomputed', halike⟩
    obtain ⟨filled, hall, hcomputed⟩ :=
      Grouped.exists_computedBy wf.keys_nodup hlen hcomputed'.runs
    -- both are filled, so the same is found in them
    have hfinds := hcomputed'.finds.trans hcomputed.finds.symm
    obtain ⟨t, ht⟩ := (Table.exists_stack_congr (hcomputed'.ne_nil hne) hfinds).mp
      ((Table.exists_stack_iff (hcomputed'.ne_nil hne)).mpr halike)
    exact ⟨_, _, ⟨filled, t, hall, ht, rfl⟩, rfl⟩
  · rintro _ ⟨_, ⟨filled, t, hall, ht, rfl⟩, rfl⟩
    obtain ⟨results, hcomputed⟩ := Grouped.computedBy_of_ok wf.keys_nodup hlen hall
    have hstack := Table.stackOf_stack (Grouped.wellFormed_computed wf.table hc hall)
      (hcomputed.ne_nil hne) ht
    refine ⟨results, filled, t, hcomputed, rfl, hstack, ?_, fun hfree first hfirst => ?_⟩
    · rw [Table.rows, hstack.labels, List.length_range, hcomputed.totalSize_eq]
    · obtain ⟨group, _, u, v, hu, hv, hfilled⟩ := hcomputed.head hne
      cases hu.symm.trans hfirst
      have hnames := hstack.names
      rw [hv] at hnames
      have hsame : v.names = t.names := Option.some.inj hnames
      rw [← hsame]
      exact hfilled.leading (hfree first (List.mem_of_head? hfirst))

/-- The one row of a second group without its key, which is filled in. -/
theorem Session.apply_compute_lacking :
    ∃ groups results filled,
      Table.groupRows ["g"] ⟨[("g", .strs ["b", "a", "a"]), ("v", .ints [1, 2, 3])], [4, 5, 6]⟩ =
        .ok groups ∧
      Grouped.ComputedBy
        ⟨⟨[("g", .strs ["b", "a", "a"]), ("v", .ints [1, 2, 3])], [4, 5, 6]⟩, ["g"]⟩
        (.table fun t => if t.rows = 1 then t.select ["v"] else .ok t) groups results filled ∧
      Table.StackOf filled
        ⟨[("g", .strs ["a", "a", "b"]), ("v", .ints [2, 3, 1])], [0, 1, 2]⟩ := by
  have hc : Computation.Trusted (.table fun t => if t.rows = 1 then t.select ["v"] else .ok t) := by
    intro t t' wf h
    by_cases hone : t.rows = 1
    · simp only [if_pos hone] at h
      exact (wf.select (List.nodup_singleton "v") h).1
    · simp only [if_neg hone] at h
      cases h
      exact wf
  have hout : (Session.apply ⟨none, Scope.empty, Draws.first⟩ Options.standard
      (.grouped ⟨⟨[("g", .strs ["b", "a", "a"]), ("v", .ints [1, 2, 3])], [4, 5, 6]⟩, ["g"]⟩)
      (.compute (.table fun t => if t.rows = 1 then t.select ["v"] else .ok t))).outcome =
        .ok (.data (.grouped
          ⟨⟨[("g", .strs ["a", "a", "b"]), ("v", .ints [2, 3, 1])], [0, 1, 2]⟩, ["g"]⟩)) := by
    decide +kernel
  have wf : Grouped.WellFormed
      ⟨⟨[("g", .strs ["b", "a", "a"]), ("v", .ints [1, 2, 3])], [4, 5, 6]⟩, ["g"]⟩ :=
    ⟨⟨by decide, by decide⟩, by decide, by decide, by decide⟩
  obtain ⟨_, groups, _, hgroups, _, _, hresult⟩ := Session.apply_compute wf (by decide)
    ⟨none, Scope.empty, Draws.first⟩ Options.standard hc
  obtain ⟨results, filled, t, hcomputed, hdata, hstack, _⟩ := hresult _ hout
  cases hdata
  exact ⟨groups, results, filled, hgroups, hcomputed, hstack⟩

end TableVerbs
