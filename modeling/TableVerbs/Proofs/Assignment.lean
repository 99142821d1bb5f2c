import Mathlib
import TableVerbs.Proofs.AssignedColumns

/-!
# Computed columns are assigned all at once

All values of new columns are there before the first of them is set, and each is
computed from the table as it was. What a table becomes is therefore what it is with
the values assigned to it at once, and what the order of the expressions can be told
by is little. It decides between two expressions of one name, and it is the order of
the names that are new.
-/

namespace TableVerbs

/-! ## Computing the values -/

theorem evalColumns_eq_ok {scope : Scope} {t : Table} {columns : List NewColumn}
    {values : List (String × Column)} : evalColumns scope t columns = .ok values ↔
      List.Forall₂ (fun c v => c.1 = v.1 ∧ c.2.evalColumn t scope = .ok v.2) columns values :=
  mapM_named_eq_ok (f := fun a : Argument => a.evalColumn t scope)

/-- The value of a name is that of its last expression. -/
theorem lookup_evalColumns {scope : Scope} {t : Table} {columns : List NewColumn}
    {values : List (String × Column)} (h : evalColumns scope t columns = .ok values)
    {name : String} {a : Argument} (ha : columns.reverse.lookup name = some a) :
    ∃ c, values.reverse.lookup name = some c ∧ a.evalColumn t scope = .ok c :=
  lookup_forall₂ (R := fun a c => a.evalColumn t scope = .ok c)
    (List.rel_reverse (evalColumns_eq_ok.mp h)) ha

theorem evalColumns_perm {scope : Scope} {t : Table} {columns columns' : List NewColumn}
    {values : List (String × Column)} (hperm : columns.Perm columns')
    (h : evalColumns scope t columns = .ok values) :
    ∃ values', evalColumns scope t columns' = .ok values' ∧ values.Perm values' := by
  obtain ⟨values', hvalues', hsame⟩ :=
    List.perm_comp_forall₂ hperm.symm (evalColumns_eq_ok.mp h)
  exact ⟨values', evalColumns_eq_ok.mpr hvalues', hsame.symm⟩

theorem evalColumns_succeeds {scope : Scope} {t : Table} {columns : List NewColumn} :
    (∃ values, evalColumns scope t columns = .ok values) ↔
      ∀ c ∈ columns, ∃ v, c.2.eval t scope = .ok v ∧ ∀ n ∈ v.length?, n = t.rows := by
  rw [evalColumns, mapM_succeeds]
  refine forall₂_congr fun c _ => ?_
  simp only [map_eq_ok, Argument.evalColumn_eq, bind_eq_ok, ← Datum.toColumn_succeeds]
  constructor
  · rintro ⟨_, x, ⟨v, hv, hx⟩, rfl⟩
    exact ⟨v, hv, x, hx⟩
  · rintro ⟨v, hv, x, hx⟩
    exact ⟨_, x, ⟨v, hv, hx⟩, rfl⟩

/-! ## The verb -/

/-- Setting columns of a dataset is setting them on its table. -/
theorem Edit.setColumns_eq (values : List (String × Column)) (d : Dataset) :
    (Edit.setColumns values d).2.map (fun _ => (Edit.setColumns values d).1) =
      (d.table.setColumns values).map fun t => d.withTable t := by
  induction values generalizing d with
  | nil => exact congrArg Except.ok Dataset.withTable_self.symm
  | cons v rest ih =>
      rw [Edit.setColumns, Table.setColumns]
      cases d.table.setColumn v.1 v.2 with
      | error e => rfl
      | ok t =>
          simp only
          rw [ih, Dataset.table_withTable]
          simp only [Dataset.withTable_withTable]

namespace Dataset

variable {d d' : Dataset} {scope : Scope} {columns columns' : List NewColumn} {inPlace : Bool}

theorem mutate_outcome : (d.mutate inPlace scope columns).outcome =
    (evalColumns scope d.table columns).bind fun values =>
      (d.table.setColumns values).map fun t => d.withTable t := by
  rw [mutate]
  cases evalColumns scope d.table columns with
  | error e => rfl
  | ok values => exact Edit.setColumns_eq values d

theorem mutate_eq_ok : (d.mutate inPlace scope columns).outcome = .ok d' ↔
    ∃ values t, evalColumns scope d.table columns = .ok values ∧
      d.table.setColumns values = .ok t ∧ d.withTable t = d' := by
  simp only [mutate_outcome, bind_eq_ok, map_eq_ok]
  constructor
  · rintro ⟨values, hvalues, t, ht, rfl⟩
    exact ⟨values, t, hvalues, ht, rfl⟩
  · rintro ⟨values, t, hvalues, ht, rfl⟩
    exact ⟨values, hvalues, t, ht, rfl⟩

theorem mutate_succeeds : (∃ d', (d.mutate inPlace scope columns).outcome = .ok d') ↔
    ∀ c ∈ columns, ∃ v, c.2.eval d.table scope = .ok v ∧ ∀ n ∈ v.length?, n = d.table.rows := by
  rw [← evalColumns_succeeds]
  constructor
  · rintro ⟨_, h⟩
    obtain ⟨values, _, hvalues, _⟩ := mutate_eq_ok.mp h
    exact ⟨values, hvalues⟩
  · rintro ⟨values, hvalues⟩
    obtain ⟨t, ht⟩ := Table.setColumns_succeeds (evalColumns_length hvalues)
    exact ⟨_, mutate_eq_ok.mpr ⟨values, t, hvalues, ht, rfl⟩⟩

/-- What a dataset becomes when expressions are assigned to names at once: the column
of a name holds the value that the last expression of that name has on the dataset as
it was, new names come last in the order in which they first occur, and every column
that is not the first one of an assigned name stands where it stood. -/
structure Assigned (scope : Scope) (columns : List NewColumn) (d d' : Dataset) : Prop where
  value : ∀ name ∈ columns.map Prod.fst, ∃ a v c, columns.reverse.lookup name = some a ∧
    a.eval d.table scope = .ok v ∧ v.toColumn d.table.rows = .ok c ∧
    d'.table.find? name = some c
  others : ∀ i c, d.table.columns[i]? = some c →
    (c.1 ∉ columns.map Prod.fst ∨ c.1 ∈ d.table.names.take i) → d'.table.columns[i]? = some c
  names : d'.table.names =
    d.table.names ++ (withoutRepeats (columns.map Prod.fst)).filter (· ∉ d.table.names)
  labels : d'.table.labels = d.table.labels
  keys : d'.keys = d.keys
  isGrouped : d'.isGrouped = d.isGrouped

/-- Datasets that are the same up to the order of the columns from the `n`-th on. -/
structure Reordered (n : Nat) (d d' : Dataset) : Prop where
  front : d'.table.columns.take n = d.table.columns.take n
  back : (d'.table.columns.drop n).Perm (d.table.columns.drop n)
  labels : d'.table.labels = d.table.labels
  keys : d'.keys = d.keys
  isGrouped : d'.isGrouped = d.isGrouped

theorem assigned_mutate (h : (d.mutate inPlace scope columns).outcome = .ok d') :
    d.Assigned scope columns d' := by
  obtain ⟨values, t, hvalues, ht, rfl⟩ := mutate_eq_ok.mp h
  have hassigned := Table.assigned_setColumns ht
  have hnames := names_evalColumns hvalues
  refine ⟨fun name hname => ?_, ?_, ?_, ?_, keys_withTable t, isGrouped_withTable t⟩
  · obtain ⟨a, ha⟩ := exists_lookup_reverse hname
    obtain ⟨c, hc, heval⟩ := lookup_evalColumns hvalues ha
    rw [Argument.evalColumn_eq, bind_eq_ok] at heval
    obtain ⟨v, hv, hvc⟩ := heval
    refine ⟨a, v, c, ha, hv, hvc, ?_⟩
    rw [table_withTable, hassigned.found, hc, Option.some_or]
  · intro i c hc hset
    rw [table_withTable]
    exact hassigned.others i c hc (hnames ▸ hset)
  · rw [table_withTable, hassigned.names, hnames]
  · rw [table_withTable, hassigned.labels]

theorem reordered_mutate (hperm : columns.Perm columns') (hnodup : (columns.map Prod.fst).Nodup)
    (h : (d.mutate inPlace scope columns).outcome = .ok d') :
    ∃ d'', (d.mutate inPlace scope columns').outcome = .ok d'' ∧
      d'.Reordered d.table.columns.length d'' := by
  obtain ⟨values, t, hvalues, ht, rfl⟩ := mutate_eq_ok.mp h
  obtain ⟨values', hvalues', hsame⟩ := evalColumns_perm hperm hvalues
  obtain ⟨t', ht'⟩ := Table.setColumns_succeeds (evalColumns_length hvalues')
  have hassigned := Table.assigned_setColumns ht
  have hassigned' := Table.assigned_setColumns ht'
  have hdistinct : (values.map Prod.fst).Nodup := names_evalColumns hvalues ▸ hnodup
  refine ⟨_, mutate_eq_ok.mpr ⟨values', t', hvalues', ht', rfl⟩, ?_, ?_, ?_, ?_, ?_⟩
  · rw [table_withTable, table_withTable]
    exact hassigned.front_perm hassigned' hsame hdistinct
  · rw [table_withTable, table_withTable]
    exact hassigned.back_perm hassigned' hsame hdistinct
  · rw [table_withTable, table_withTable, hassigned.labels, hassigned'.labels]
  · rw [keys_withTable, keys_withTable]
  · rw [isGrouped_withTable, isGrouped_withTable]

end Dataset

/-- Computing columns assigns them all at once. It succeeds exactly if every expression
comes to a cell or to a column with a value for each row; every column then has the value
of the last expression of its name on the dataset as it was, and nothing else changes.
In another order, expressions of different names give the same up to the order of the
new columns. -/
theorem Session.mutate_at_once (s : Session) (defaults : Options) (d : Dataset)
    (columns : List NewColumn) :
    ((∃ out, (s.apply defaults d (.mutate columns)).outcome = .ok out) ↔
      ∀ c ∈ columns, ∃ v, c.2.eval d.table s.scope = .ok v ∧
        ∀ n ∈ v.length?, n = d.table.rows) ∧
    (∀ out, (s.apply defaults d (.mutate columns)).outcome = .ok out →
      ∃ d', out = .data d' ∧ d.Assigned s.scope columns d') ∧
    ∀ columns', columns.Perm columns' → (columns.map Prod.fst).Nodup →
      ∀ d', (s.apply defaults d (.mutate columns)).outcome = .ok (.data d') →
        ∃ d'', (s.apply defaults d (.mutate columns')).outcome = .ok (.data d'') ∧
          d'.Reordered d.table.columns.length d'' := by
  have houtcome : ∀ {columns out}, (s.apply defaults d (.mutate columns)).outcome = .ok out ↔
      ∃ d', (d.mutate (s.optionsUnder defaults).inPlace s.scope columns).outcome = .ok d' ∧
        .data d' = out := map_eq_ok
  simp only [houtcome]
  refine ⟨?_, ?_, ?_⟩
  · rw [← Dataset.mutate_succeeds]
    exact ⟨fun ⟨_, d', hd', _⟩ => ⟨d', hd'⟩, fun ⟨d', hd'⟩ => ⟨_, d', hd', rfl⟩⟩
  · rintro _ ⟨d', hd', rfl⟩
    exact ⟨d', rfl, Dataset.assigned_mutate hd'⟩
  · rintro columns' hperm hnodup _ ⟨d', hd', hdata⟩
    cases hdata
    obtain ⟨d'', hd'', hsame⟩ := Dataset.reordered_mutate hperm hnodup hd'
    exact ⟨d'', ⟨d'', hd'', rfl⟩, hsame⟩

/-- Two columns of grouped rows are swapped, and what is computed for a new one knows
nothing of it, before them or behind them. -/
theorem Session.mutate_at_once_swapped :
    ∃ d', (Session.apply ⟨none, Scope.empty, Draws.first⟩ Options.standard
        (.grouped ⟨⟨[("x", .ints [1, 2]), ("y", .ints [10, 20])], [5, 6]⟩, ["x"]⟩)
        (.mutate [("z", .text "x"), ("y", .text "x"), ("x", .text "y")])).outcome =
          .ok (.data d') ∧
      Dataset.Reordered 2 (.grouped ⟨⟨[("x", .ints [10, 20]), ("y", .ints [1, 2]),
        ("z", .ints [1, 2])], [5, 6]⟩, ["x"]⟩) d' := by
  have hout : (Session.apply ⟨none, Scope.empty, Draws.first⟩ Options.standard
      (.grouped ⟨⟨[("x", .ints [1, 2]), ("y", .ints [10, 20])], [5, 6]⟩, ["x"]⟩)
      (.mutate [("x", .text "y"), ("y", .text "x"), ("z", .text "x")])).outcome =
        .ok (.data (.grouped ⟨⟨[("x", .ints [10, 20]), ("y", .ints [1, 2]),
          ("z", .ints [1, 2])], [5, 6]⟩, ["x"]⟩)) := by cbv
  exact (Session.mutate_at_once _ _ _ _).2.2 _ (List.isPerm_iff.mp (by decide)) (by decide) _ hout

end TableVerbs
