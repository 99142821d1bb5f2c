import TableVerbs.Proofs.GroupedRows
import TableVerbs.Proofs.Lookup
import TableVerbs.Proofs.NewColumns
import TableVerbs.Session

/-!
# Labelling without grouping first

The rows of a plain table are labelled in two ways: by grouping the table and
labelling what comes out, or directly, where only the key columns are put
together. The tables that are grouped are not the same, but the labels depend on
the table only by its number of rows and by the columns that are found under the
names of the keys. A name that is computed is found as it was computed last, in
both tables, and any other name as it was found before.

What differs is when a given key has to be a column. Grouping looks for the keys
after the new columns are set, and labelling directly before. A given key that is
only computed can be grouped by and is missing for the labels.
-/

namespace TableVerbs

namespace Table

variable {t t' u : Table} {names : List String}

/-! ## Columns under their names -/

theorem lookup_putColumn (name other : String) (c : Column) (columns : List (String × Column)) :
    (putColumn name c columns).lookup other =
      if other = name then some c else columns.lookup other := by
  induction columns with
  | nil => exact lookup_cons_if other name c []
  | cons d rest ih =>
      obtain ⟨n, d⟩ := d
      rw [putColumn]
      by_cases hn : n = name
      · subst hn
        rw [if_pos rfl, lookup_cons_if, lookup_cons_if]
        by_cases h : other = n <;> simp [h]
      · rw [if_neg hn, lookup_cons_if, lookup_cons_if, ih]
        by_cases h : other = n
        · simp [h, hn]
        · simp [h]

theorem setColumns_cons {name : String} {c : Column} {rest : List (String × Column)} :
    t.setColumns ((name, c) :: rest) = .ok t' ↔ c.length = t.rows ∧
      setColumns rest ⟨putColumn name c t.columns, t.labels⟩ = .ok t' := by
  rw [setColumns, setColumn]
  by_cases hlen : c.length = t.rows <;> simp [hlen]

/-- A name is found as it was set last, or else as it was before. -/
theorem find?_setColumns {values : List (String × Column)} (h : t.setColumns values = .ok t')
    (name : String) : t'.find? name = (values.reverse.lookup name).or (t.find? name) := by
  induction values generalizing t with
  | nil =>
      cases h
      rfl
  | cons v rest ih =>
      obtain ⟨n, c⟩ := v
      have hput : find? ⟨putColumn n c t.columns, t.labels⟩ name =
          if name = n then some c else t.find? name := lookup_putColumn n name c t.columns
      rw [ih (setColumns_cons.mp h).2, hput, List.reverse_cons, List.lookup_append, Option.or_assoc,
        lookup_cons_if]
      by_cases hn : name = n <;> simp [hn]

theorem labels_setColumns {values : List (String × Column)} (h : t.setColumns values = .ok t') :
    t'.labels = t.labels := by
  induction values generalizing t with
  | nil =>
      cases h
      rfl
  | cons v rest ih => exact (ih (setColumns_cons.mp h).2).trans rfl

theorem setColumns_succeeds {values : List (String × Column)}
    (h : ∀ v ∈ values, v.2.length = t.rows) : ∃ t', t.setColumns values = .ok t' := by
  induction values generalizing t with
  | nil => exact ⟨t, rfl⟩
  | cons v rest ih =>
      obtain ⟨hv, hrest⟩ := List.forall_mem_cons.mp h
      rw [setColumns, setColumn_of_length hv]
      exact ih hrest

theorem select_succeeds : (∃ t', t.select names = .ok t') ↔ ∀ name ∈ names, name ∈ t.names := by
  have hcolumn : ∀ name,
      name ∈ t.names ↔ ∃ p, (t.column name).map (fun c => (name, c)) = .ok p := by
    intro name
    simp only [mem_names_iff, map_eq_ok, column_eq_ok]
    exact ⟨fun ⟨c, hc⟩ => ⟨_, c, hc, rfl⟩, fun ⟨_, c, hc, _⟩ => ⟨c, hc⟩⟩
  simp only [hcolumn]
  rw [← mapM_succeeds]
  constructor
  · rintro ⟨t', h⟩
    obtain ⟨columns, hcolumns, _⟩ := select_eq_ok.mp h
    exact ⟨columns, hcolumns⟩
  · rintro ⟨columns, hcolumns⟩
    exact ⟨_, select_eq_ok.mpr ⟨columns, hcolumns, rfl⟩⟩

/-- The first name that is no column is the failure. -/
theorem select_missing {name : String} (h : names.find? (fun n => !t.has n) = some name) :
    t.select names = .error (.missingColumn name) := by
  obtain ⟨hname, before, after, hsplit, hbefore⟩ := List.find?_eq_some_iff_append.mp h
  have hnone : t.find? name = none := by
    rw [Bool.not_eq_true', ← Bool.not_eq_true, has_iff, mem_names_iff] at hname
    exact Option.eq_none_iff_forall_ne_some.mpr fun c hc => hname ⟨c, hc⟩
  have hmapM : (names.mapM fun n => (t.column n).map fun c => (n, c)) =
      .error (.missingColumn name) := by
    refine mapM_eq_error.mpr ⟨before, name, after, hsplit, fun n hn => ?_, ?_⟩
    · have hhas := hbefore n hn
      rw [Bool.not_not, has_iff, mem_names_iff] at hhas
      obtain ⟨c, hc⟩ := hhas
      exact ⟨_, map_eq_ok.mpr ⟨c, column_eq_ok.mpr hc, rfl⟩⟩
    · rw [column, hnone]
      rfl
  rw [select, hmapM]

theorem find?_select (h : t.select names = .ok t') {name : String} (hname : name ∈ names) :
    t'.find? name = t.find? name := by
  obtain ⟨columns, hcolumns, rfl⟩ := select_eq_ok.mp h
  have hall := mapM_eq_ok.mp hcolumns
  show columns.lookup name = t.find? name
  clear h hcolumns
  induction hall with
  | nil => cases hname
  | @cons n c names columns hn _ ih =>
      obtain ⟨c, hc, rfl⟩ := map_eq_ok.mp hn
      rw [lookup_cons_if]
      split
      · next hsame => rw [hsame, column_eq_ok.mp hc]
      · next hother => exact ih ((List.mem_cons.mp hname).resolve_left hother)

/-- Values set on picked columns give, under the names that were picked or set, what they
give on the whole table. -/
theorem select_setColumns {values : List (String × Column)}
    (hlength : ∀ v ∈ values, v.2.length = t.rows) (hselected : t.select names = .ok u)
    (hset : t.setColumns values = .ok t') :
    ∃ u', u.setColumns values = .ok u' ∧ u'.labels = t'.labels ∧
      ∀ name, name ∈ names ∨ name ∈ values.map Prod.fst → u'.find? name = t'.find? name := by
  have hlabels := labels_select hselected
  obtain ⟨u', hu'⟩ : ∃ u', u.setColumns values = .ok u' := by
    refine setColumns_succeeds fun v hv => ?_
    rw [hlength v hv, rows, rows, hlabels]
  refine ⟨u', hu', ?_, fun name hname => ?_⟩
  · rw [labels_setColumns hu', labels_setColumns hset, hlabels]
  · rw [find?_setColumns hu', find?_setColumns hset]
    -- a picked name may be set as well, and is then found as set in both tables
    rcases hname with hpicked | hnew
    · rw [find?_select hselected hpicked]
    · obtain ⟨c, hc⟩ := exists_lookup_reverse hnew
      rw [hc, Option.some_or, Option.some_or]

/-! ## What labels depend on -/

theorem groupRows_congr (hrows : t.rows = u.rows)
    (h : ∀ name ∈ names, t.find? name = u.find? name) :
    t.groupRows names = u.groupRows names := by
  have hcolumns : t.columnsOf names = u.columnsOf names := by
    rw [columnsOf, columnsOf]
    induction names with
    | nil => rfl
    | cons name rest ih =>
        obtain ⟨hname, hrest⟩ := List.forall_mem_cons.mp h
        rw [List.mapM_cons, List.mapM_cons, ih hrest, column, column, hname]
  rw [groupRows, groupRows, hcolumns, hrows]

end Table

theorem Grouped.labels_congr {t u : Table} {keys : List String} (hrows : t.rows = u.rows)
    (h : ∀ name ∈ keys, t.find? name = u.find? name) :
    (Grouped.mk t keys).labels = (Grouped.mk u keys).labels := by
  rw [labels, labels, Table.groupRows_congr hrows h, hrows]

theorem Grouped.labels_succeed {t : Table} {keys : List String} (h : ∀ k ∈ keys, k ∈ t.names) :
    ∃ ls, (Grouped.mk t keys).labels = .ok ls := by
  obtain ⟨columns, hcolumns⟩ := Table.exists_columnsOf h
  obtain ⟨groups, hgroups, _⟩ := Table.groupRows_split hcolumns
  exact ⟨_, congrArg (Except.map _) hgroups⟩

/-! ## The two ways to label -/

theorem mem_allKeys {keys : List String} {newColumns : List NewColumn} {name : String} :
    name ∈ allKeys keys newColumns ↔ name ∈ keys ∨ name ∈ newColumns.map Prod.fst := by
  rw [allKeys, mem_withoutRepeats, List.mem_append]

theorem names_evalColumns {scope : Scope} {t : Table} {newColumns : List NewColumn}
    {values : List (String × Column)} (h : evalColumns scope t newColumns = .ok values) :
    values.map Prod.fst = newColumns.map Prod.fst := by
  have hall := (mapM_named_eq_ok (f := fun a : Argument => a.evalColumn t scope)).mp h
  exact map_fst_forall₂ (hall.imp fun _ _ hv => hv.1)

namespace Dataset

variable {scope : Scope} {keys : List String} {newColumns : List NewColumn} {t : Table}

theorem regroup_outcome (inPlace : Bool) (d : Dataset) :
    (d.regroup inPlace scope keys newColumns).outcome =
      (evalColumns scope d.table newColumns).bind fun values =>
        (d.table.setColumns values).bind fun t' =>
          (Grouped.ofKeys t' (allKeys keys newColumns)).map .grouped := by
  rw [regroup]
  cases evalColumns scope d.table newColumns with
  | error e => rfl
  | ok values =>
      refine (Edit.outcome_atOnce _ inPlace d).trans ?_
      cases h : d.table.setColumns values with
      | error e => simp [h, Except.bind]
      | ok t' => simp [h, Except.bind]

theorem regroup_eq_ok {inPlace : Bool} {d d' : Dataset} :
    (d.regroup inPlace scope keys newColumns).outcome = .ok d' ↔
      ∃ values t' g, evalColumns scope d.table newColumns = .ok values ∧
        d.table.setColumns values = .ok t' ∧
        Grouped.ofKeys t' (allKeys keys newColumns) = .ok g ∧ d' = .grouped g := by
  simp only [regroup_outcome, bind_eq_ok, map_eq_ok]
  constructor
  · rintro ⟨values, hvalues, t', hset, g, hg, rfl⟩
    exact ⟨values, t', g, hvalues, hset, hg, rfl⟩
  · rintro ⟨values, t', g, hvalues, hset, hg, rfl⟩
    exact ⟨values, hvalues, t', hset, g, hg, rfl⟩

theorem keyTable_eq_ok {u : Table} : keyTable scope keys newColumns t = .ok u ↔
    ∃ selected values, t.select keys = .ok selected ∧ evalColumns scope t newColumns = .ok values ∧
      selected.setColumns values = .ok u := by
  rw [keyTable]
  cases t.select keys with
  | error e => simp
  | ok selected => cases evalColumns scope t newColumns <;> simp

theorem groupIndices_eq_ok {ls : List Nat} :
    (plain t).groupIndices scope keys newColumns = .ok ls ↔
      ∃ u g, keyTable scope keys newColumns t = .ok u ∧
        Grouped.ofKeys u (allKeys keys newColumns) = .ok g ∧ g.labels = .ok ls := by
  simp only [groupIndices]
  split
  · next hempty =>
      rw [List.isEmpty_iff] at hempty
      constructor
      · intro h
        cases h
      · rintro ⟨u, g, _, hg, _⟩
        exact absurd hempty (Grouped.ofKeys_eq_ok.mp hg).1
  · cases keyTable scope keys newColumns t with
    | error e => simp
    | ok u => cases hkeys : Grouped.ofKeys u (allKeys keys newColumns) <;> simp [hkeys]

/-- Under the names of the keys, the table of the key columns has what the table with
the new columns has. -/
theorem keyTable_finds (hkeys : ∀ k ∈ keys, k ∈ t.names) {values : List (String × Column)}
    (hvalues : evalColumns scope t newColumns = .ok values) {t' : Table}
    (hset : t.setColumns values = .ok t') :
    ∃ u, keyTable scope keys newColumns t = .ok u ∧ u.rows = t'.rows ∧
      ∀ name ∈ allKeys keys newColumns, u.find? name = t'.find? name := by
  obtain ⟨selected, hselected⟩ := Table.select_succeeds.mpr hkeys
  obtain ⟨u, hu, hlabels, hfound⟩ :=
    Table.select_setColumns (evalColumns_length hvalues) hselected hset
  refine ⟨u, keyTable_eq_ok.mpr ⟨selected, values, hselected, hvalues, hu⟩,
    congrArg List.length hlabels, fun name hname => hfound name ?_⟩
  rw [names_evalColumns hvalues]
  exact mem_allKeys.mp hname

/-- Where the given keys are columns, a table that is grouped is labelled as it is
directly. -/
theorem groupIndices_of_regroup (hkeys : ∀ k ∈ keys, k ∈ t.names) {inPlace : Bool} {d : Dataset}
    (h : ((plain t).regroup inPlace scope keys newColumns).outcome = .ok d) :
    ∃ ls, (plain t).groupIndices scope keys newColumns = .ok ls ∧
      d.groupIndices scope [] [] = .ok ls := by
  obtain ⟨values, t', g, hvalues, hset, hg, rfl⟩ := regroup_eq_ok.mp h
  obtain ⟨hne, hall, rfl⟩ := Grouped.ofKeys_eq_ok.mp hg
  obtain ⟨u, hu, hrows, hfind⟩ := keyTable_finds hkeys hvalues hset
  have hkept : ∀ name ∈ withoutRepeats (allKeys keys newColumns),
      name ∈ allKeys keys newColumns := fun _ => mem_withoutRepeats.mp
  have hcolumns : ∀ name ∈ allKeys keys newColumns, name ∈ u.names := by
    intro name hname
    rw [Table.mem_names_iff, hfind name hname, ← Table.mem_names_iff]
    exact hall name hname
  have hgrouped := Grouped.ofKeys_eq_ok.mpr ⟨hne, hcolumns, rfl⟩
  obtain ⟨ls, hls⟩ := Grouped.labels_succeed fun name hname => hcolumns name (hkept name hname)
  refine ⟨ls, groupIndices_eq_ok.mpr ⟨u, _, hu, hgrouped, hls⟩, ?_⟩
  show Grouped.labels _ = .ok ls
  rw [← Grouped.labels_congr hrows fun name hname => hfind name (hkept name hname), hls]

/-- A table that is labelled directly has the given keys and can be grouped. -/
theorem regroup_of_groupIndices {ls : List Nat}
    (h : (plain t).groupIndices scope keys newColumns = .ok ls) (inPlace : Bool) :
    (∀ k ∈ keys, k ∈ t.names) ∧
      ∃ d, ((plain t).regroup inPlace scope keys newColumns).outcome = .ok d := by
  obtain ⟨u, g, hu, hg, _⟩ := groupIndices_eq_ok.mp h
  obtain ⟨selected, values, hselected, hvalues, _⟩ := keyTable_eq_ok.mp hu
  have hkeys := Table.select_succeeds.mp ⟨selected, hselected⟩
  obtain ⟨t', hset⟩ := Table.setColumns_succeeds (evalColumns_length hvalues)
  obtain ⟨u', hu', _, hfind⟩ := keyTable_finds hkeys hvalues hset
  cases hu.symm.trans hu'
  obtain ⟨hne, hall, _⟩ := Grouped.ofKeys_eq_ok.mp hg
  have hcolumns : ∀ name ∈ allKeys keys newColumns, name ∈ t'.names := by
    intro name hname
    rw [Table.mem_names_iff, ← hfind name hname, ← Table.mem_names_iff]
    exact hall name hname
  exact ⟨hkeys, _, regroup_eq_ok.mpr
    ⟨values, t', _, hvalues, hset, Grouped.ofKeys_eq_ok.mpr ⟨hne, hcolumns, rfl⟩, rfl⟩⟩

/-- A given key that is no column is the failure of the labels, computed or not. -/
theorem groupIndices_missing {k : String} (h : keys.find? (fun k => !t.has k) = some k) :
    (plain t).groupIndices scope keys newColumns = .error (.missingColumn k) := by
  have hkey : k ∈ allKeys keys newColumns := mem_allKeys.mpr (.inl (List.mem_of_find?_eq_some h))
  have hall : (allKeys keys newColumns).isEmpty = false :=
    List.isEmpty_eq_false_iff.mpr (List.ne_nil_of_mem hkey)
  simp [groupIndices, hall, keyTable, Table.select_missing h]

end Dataset

namespace Session

variable (s : Session) (defaults : Options) (t : Table) (keys : List String)
  (newColumns : List NewColumn)

/-- A plain table can be labelled directly if it can be grouped and the given keys are
columns of it before anything is computed. The labels are then those of the grouped
table. The first given key that is no column fails. -/
theorem labels_directly :
    ((∃ out, (s.apply defaults (.plain t) (.groupIndices keys newColumns)).outcome = .ok out) ↔
      (∃ out, (s.apply defaults (.plain t) (.groupBy keys newColumns)).outcome = .ok out) ∧
        ∀ k ∈ keys, k ∈ t.names) ∧
    (∀ out, (s.apply defaults (.plain t) (.groupIndices keys newColumns)).outcome = .ok out →
      ∃ d, (s.apply defaults (.plain t) (.groupBy keys newColumns)).outcome = .ok (.data d) ∧
        (s.apply defaults d (.groupIndices [] [])).outcome = .ok out) ∧
    ∀ k, keys.find? (fun k => !t.has k) = some k →
      (s.apply defaults (.plain t) (.groupIndices keys newColumns)).outcome =
        .error (.missingColumn k) := by
  have hlabels : ∀ d keys newColumns, (s.apply defaults d (.groupIndices keys newColumns)).outcome =
      (d.groupIndices s.scope keys newColumns).map .labels := fun _ _ _ => rfl
  have hgroups : (s.apply defaults (.plain t) (.groupBy keys newColumns)).outcome =
      ((Dataset.plain t).regroup (s.optionsUnder defaults).inPlace s.scope keys
        newColumns).outcome.map .data := rfl
  simp only [hlabels, hgroups, map_eq_ok]
  refine ⟨⟨?_, ?_⟩, ?_, fun k hk => ?_⟩
  · rintro ⟨_, ls, hls, rfl⟩
    obtain ⟨hkeys, d, hd⟩ := Dataset.regroup_of_groupIndices hls (s.optionsUnder defaults).inPlace
    exact ⟨⟨_, d, hd, rfl⟩, hkeys⟩
  · rintro ⟨⟨_, d, hd, rfl⟩, hkeys⟩
    obtain ⟨ls, hls, _⟩ := Dataset.groupIndices_of_regroup hkeys hd
    exact ⟨_, ls, hls, rfl⟩
  · rintro _ ⟨ls, hls, rfl⟩
    obtain ⟨hkeys, d, hd⟩ := Dataset.regroup_of_groupIndices hls (s.optionsUnder defaults).inPlace
    obtain ⟨ls', hdirect, hgrouped⟩ := Dataset.groupIndices_of_regroup hkeys hd
    cases hls.symm.trans hdirect
    exact ⟨d, ⟨d, hd, rfl⟩, ls, hgrouped, rfl⟩
  · rw [Dataset.groupIndices_missing hk]
    rfl

/-- Labels by a key that is given twice and computed anew. -/
theorem labels_directly_computed :
    ∃ d, (apply ⟨none, .empty, Draws.first⟩ .standard (.plain ⟨[("x", .ints [2, 1])], [0, 1]⟩)
        (.groupBy ["x", "x"] [("x", .cell (.int 7))])).outcome = .ok (.data d) ∧
      (apply ⟨none, .empty, Draws.first⟩ .standard d (.groupIndices [] [])).outcome =
        .ok (.labels [0, 0]) :=
  (labels_directly ⟨none, .empty, Draws.first⟩ .standard ⟨[("x", .ints [2, 1])], [0, 1]⟩ ["x", "x"]
    [("x", .cell (.int 7))]).2.1 _ (by decide)

/-- A key that is only computed can be grouped by, and the labels miss it. -/
theorem labels_miss_computed_key :
    (∃ d, (apply ⟨none, .empty, Draws.first⟩ .standard (.plain ⟨[("x", .ints [1])], [0]⟩)
        (.groupBy ["z"] [("z", .cell (.int 1))])).outcome = .ok (.data d) ∧
      (apply ⟨none, .empty, Draws.first⟩ .standard d (.groupIndices [] [])).outcome =
        .ok (.labels [0])) ∧
      (apply ⟨none, .empty, Draws.first⟩ .standard (.plain ⟨[("x", .ints [1])], [0]⟩)
        (.groupIndices ["z"] [("z", .cell (.int 1))])).outcome = .error (.missingColumn "z") := by
  exact ⟨⟨_, rfl, rfl⟩, rfl⟩

end Session

end TableVerbs
