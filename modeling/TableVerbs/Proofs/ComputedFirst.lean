import TableVerbs.Proofs.Assignment
import TableVerbs.Proofs.Pipeline

/-!
# Verbs that compute columns first

Three verbs other than `mutate` take columns to compute, and each of them puts its
result together in its own way: one drops rows of what was computed, one groups it,
and one sets the computed columns on a table of nothing but the keys. All three say
no more than `mutate` and a plain step after it, with the failures that come of it.

For the first two the plain step is the verb itself without columns to compute. For
the third it is picking columns. That it can be told without computing anything
again rests on what is found under a name: a computed one is found as it was
computed last, in both tables, and any other one is a key, which both took from the
same table.
-/

namespace TableVerbs

namespace Dataset

variable {d : Dataset} {inPlace : Bool} {scope : Scope} {columns : List NewColumn}

/-! ## Distinct rows and groups -/

theorem mutate_nothing : (d.mutate inPlace scope []).outcome = .ok d := rfl

theorem distinct_outcome (spec : Distinct) : (spec.run inPlace scope d).outcome =
    (d.mutate inPlace scope spec.newColumns).outcome.bind fun d' =>
      (d'.table.dropDuplicates spec.columns spec.keep).map d'.retag := by
  have hbind : ∀ (source : Applied Dataset) (f : Dataset → Except Error Dataset),
      (source.bind f).outcome = source.outcome.bind f := by
    intro source f
    rw [Applied.bind]
    cases source.outcome <;> rfl
  rw [Distinct.run, hbind]
  split
  · next hempty =>
      rw [List.isEmpty_iff.mp hempty, mutate_nothing]
      rfl
  · rfl

theorem regroup_eq_mutate {keys : List String} :
    (d.regroup inPlace scope keys columns).outcome =
      (d.mutate inPlace scope columns).outcome.bind fun d' =>
        d'.groupBy (allKeys keys columns) := by
  rw [mutate_outcome, regroup_outcome]
  cases evalColumns scope d.table columns with
  | error e => rfl
  | ok values =>
      simp only [Except.bind]
      cases d.table.setColumns values with
      | error e => rfl
      | ok t => simp only [Except.map, groupBy, table_withTable]

/-! ## Nothing but the keys -/

/-- Where the keys are columns, picking them leaves the dataset grouped as it was. -/
theorem Regular.keysOnly (hd : d.Regular) :
    ∃ t, d.table.select d.keys = .ok t ∧ d.keysOnly = .ok (d.withTable t) := by
  obtain ⟨t, ht⟩ := Table.select_succeeds.mpr hd.keys_mem
  refine ⟨t, ht, ?_⟩
  cases d with
  | plain u =>
      cases ht
      rfl
  | grouped g =>
      have hgrouped : Grouped.ofKeys t g.keys = .ok ⟨t, g.keys⟩ := by
        refine Grouped.ofKeys_eq_ok.mpr ⟨hd.grouped rfl, fun k hk => ?_, ?_⟩
        · rw [Table.names_select ht]
          exact hk
        · exact congrArg (Grouped.mk t) (withoutRepeats_of_nodup hd.keys_nodup).symm
      replace ht : g.table.select g.keys = .ok t := ht
      simp only [Dataset.keysOnly, ht, hgrouped]
      rfl

theorem Regular.transmute_eq (hd : d.Regular) {t : Table} (ht : d.table.select d.keys = .ok t) :
    d.transmute scope columns = (evalColumns scope d.table columns).bind fun values =>
      (t.setColumns values).map fun u => d.withTable u := by
  obtain ⟨t', ht', hkept⟩ := hd.keysOnly
  cases ht.symm.trans ht'
  rw [transmute, hkept]
  cases evalColumns scope d.table columns with
  | error e => rfl
  | ok values =>
      refine (Edit.setColumns_eq values (d.withTable t)).trans ?_
      simp only [table_withTable, withTable_withTable, Except.bind]

/-- What stays of a dataset when only its keys and the columns of some names do. -/
structure Narrowed (columns : List NewColumn) (d kept : Dataset) : Prop where
  names : kept.table.names =
    d.keys ++ (withoutRepeats (columns.map Prod.fst)).filter (· ∉ d.keys)
  found : ∀ name ∈ kept.table.names, kept.table.find? name = d.table.find? name
  labels : kept.table.labels = d.table.labels
  keys : kept.keys = d.keys
  isGrouped : kept.isGrouped = d.isGrouped

theorem narrowed {t u : Table} (hlabels : u.labels = t.labels)
    (hnames : u.names = d.keys ++ (withoutRepeats (columns.map Prod.fst)).filter (· ∉ d.keys))
    (hfound : ∀ name, name ∈ d.keys ∨ name ∈ columns.map Prod.fst →
      u.find? name = t.find? name) : (d.withTable t).Narrowed columns (d.withTable u) := by
  refine ⟨?_, fun name hname => ?_, ?_, ?_, ?_⟩
  · rw [table_withTable, keys_withTable, hnames]
  · rw [table_withTable] at hname
    rw [table_withTable, table_withTable]
    rw [hnames, List.mem_append, List.mem_filter, mem_withoutRepeats] at hname
    exact hfound name (hname.imp_right And.left)
  · rw [table_withTable, table_withTable, hlabels]
  · rw [keys_withTable, keys_withTable]
  · rw [isGrouped_withTable, isGrouped_withTable]

/-- Both verbs fail alike, or both succeed. -/
theorem Regular.transmute_or_fail (hd : d.Regular) :
    (∃ e, (d.mutate inPlace scope columns).outcome = .error e ∧
      d.transmute scope columns = .error e) ∨
    ∃ d' kept, (d.mutate inPlace scope columns).outcome = .ok d' ∧
      d.transmute scope columns = .ok kept ∧ d'.Narrowed columns kept := by
  obtain ⟨t, ht, _⟩ := hd.keysOnly
  rw [hd.transmute_eq ht, mutate_outcome]
  cases hvalues : evalColumns scope d.table columns with
  | error e => exact .inl ⟨e, rfl, rfl⟩
  | ok values =>
      have hlength := evalColumns_length hvalues
      obtain ⟨t', hset⟩ := Table.setColumns_succeeds hlength
      obtain ⟨u, hkept, hlabels, hfound⟩ := Table.select_setColumns hlength ht hset
      have hnames := Table.names_setColumns hkept
      rw [Table.names_select ht, names_evalColumns hvalues] at hnames
      rw [names_evalColumns hvalues] at hfound
      refine .inr ⟨d.withTable t', d.withTable u, ?_, ?_, narrowed hlabels hnames hfound⟩
      · exact congrArg (Except.map fun t => d.withTable t) hset
      · exact congrArg (Except.map fun t => d.withTable t) hkept

end Dataset

namespace Session

theorem pipe_mutate (s : Session) (defaults : Options) (d : Dataset) (columns : List NewColumn)
    (verb : Verb) : (s.pipe defaults d [.mutate columns, verb]).outcome =
      (d.mutate (s.optionsUnder defaults).inPlace s.scope columns).outcome.bind fun d' =>
        (s.apply defaults d' verb).outcome := by
  have happly : (s.apply defaults d (.mutate columns)).outcome =
      (d.mutate (s.optionsUnder defaults).inPlace s.scope columns).outcome.map .data := rfl
  rw [pipe_cons_cons, happly]
  cases (d.mutate (s.optionsUnder defaults).inPlace s.scope columns).outcome with
  | error e => rfl
  | ok d' => exact pipe_singleton d' verb

section

variable (s : Session) (defaults : Options) (d : Dataset)

theorem distinct_eq_pipe (spec : Distinct) : (s.apply defaults d (.distinct spec)).outcome =
    (s.pipe defaults d
      [.mutate spec.newColumns, .distinct { spec with newColumns := [] }]).outcome := by
  rw [pipe_mutate]
  show (spec.run _ s.scope d).outcome.map Output.data = _
  rw [Dataset.distinct_outcome]
  cases (d.mutate _ s.scope spec.newColumns).outcome with
  | error e => rfl
  | ok d' => rfl

theorem groupBy_eq_pipe (keys : List String) (newColumns : List NewColumn) :
    (s.apply defaults d (.groupBy keys newColumns)).outcome =
      (s.pipe defaults d
        [.mutate newColumns, .groupBy (allKeys keys newColumns) []]).outcome := by
  have hkeys : allKeys (allKeys keys newColumns) [] = allKeys keys newColumns := by
    rw [allKeys, List.map_nil, List.append_nil]
    exact withoutRepeats_of_nodup (nodup_withoutRepeats _)
  rw [pipe_mutate]
  show (d.regroup _ s.scope keys newColumns).outcome.map Output.data = _
  rw [Dataset.regroup_eq_mutate]
  cases (d.mutate _ s.scope newColumns).outcome with
  | error e => rfl
  | ok d' =>
      show (d'.groupBy (allKeys keys newColumns)).map Output.data =
        (d'.regroup _ s.scope (allKeys keys newColumns) []).outcome.map .data
      rw [Dataset.regroup_eq_mutate, Dataset.mutate_nothing, hkeys]
      rfl

variable {s defaults d}

theorem transmute_fails_iff (hd : d.Regular) (columns : List NewColumn) (e : Error) :
    (s.apply defaults d (.transmute columns)).outcome = .error e ↔
      (s.apply defaults d (.mutate columns)).outcome = .error e := by
  show (d.transmute s.scope columns).map Output.data = .error e ↔
    (d.mutate (s.optionsUnder defaults).inPlace s.scope columns).outcome.map Output.data = .error e
  rw [map_eq_error, map_eq_error]
  rcases hd.transmute_or_fail with ⟨e', hmutate, hkept⟩ | ⟨d', kept, hmutate, hkept, _⟩
  · rw [hmutate, hkept]
  · rw [hmutate, hkept]
    exact iff_of_false (fun h => by cases h) (fun h => by cases h)

theorem transmute_of_mutate (hd : d.Regular) {columns : List NewColumn} {d' : Dataset}
    (h : (s.apply defaults d (.mutate columns)).outcome = .ok (.data d')) :
    ∃ kept, (s.apply defaults d (.transmute columns)).outcome = .ok (.data kept) ∧
      d'.Narrowed columns kept := by
  obtain ⟨_, hmutate, hdata⟩ := map_eq_ok.mp h
  cases hdata
  rcases hd.transmute_or_fail with ⟨e, hfail, _⟩ | ⟨d'', kept, hsame, hkept, hnarrowed⟩
  · cases hfail.symm.trans hmutate
  · cases hsame.symm.trans hmutate
    exact ⟨kept, congrArg (Except.map Output.data) hkept, hnarrowed⟩

end

/-- The verbs that take columns to compute are `mutate` and a plain verb after it. To
tell rows apart or to group them by computed columns is to compute these and then to do
the same without. To keep nothing but keys and computed columns succeeds and fails as
computing them does, and keeps the keys in their order, then the other names, and under
each what was computed. -/
theorem mutate_first (s : Session) (defaults : Options) (d : Dataset) :
    (∀ spec : Distinct, (s.apply defaults d (.distinct spec)).outcome =
      (s.pipe defaults d
        [.mutate spec.newColumns, .distinct { spec with newColumns := [] }]).outcome) ∧
    (∀ keys newColumns, (s.apply defaults d (.groupBy keys newColumns)).outcome =
      (s.pipe defaults d [.mutate newColumns,
        .groupBy (withoutRepeats (keys ++ newColumns.map Prod.fst)) []]).outcome) ∧
    (d.Regular → ∀ columns,
      (∀ e, (s.apply defaults d (.transmute columns)).outcome = .error e ↔
        (s.apply defaults d (.mutate columns)).outcome = .error e) ∧
      ∀ d', (s.apply defaults d (.mutate columns)).outcome = .ok (.data d') →
        ∃ kept, (s.apply defaults d (.transmute columns)).outcome = .ok (.data kept) ∧
          d'.Narrowed columns kept) :=
  ⟨distinct_eq_pipe s defaults d, groupBy_eq_pipe s defaults d, fun hd columns =>
    ⟨transmute_fails_iff hd columns, fun _ hd' => transmute_of_mutate hd hd'⟩⟩

/-- A key is computed anew and two new columns have one name: what stays are the key, in
front, and the new name once. -/
theorem mutate_first_narrowed :
    ∃ kept, (apply ⟨none, .empty, Draws.first⟩ .standard
        (.grouped ⟨⟨[("x", .ints [1, 2]), ("k", .ints [3, 4])], [5, 6]⟩, ["k"]⟩)
        (.transmute [("z", .text "k"), ("k", .text "x"), ("z", .text "x")])).outcome =
          .ok (.data kept) ∧
      Dataset.Narrowed [("z", .text "k"), ("k", .text "x"), ("z", .text "x")]
        (.grouped ⟨⟨[("x", .ints [1, 2]), ("k", .ints [1, 2]), ("z", .ints [1, 2])], [5, 6]⟩,
          ["k"]⟩) kept := by
  have hregular : Dataset.Regular
      (.grouped ⟨⟨[("x", .ints [1, 2]), ("k", .ints [3, 4])], [5, 6]⟩, ["k"]⟩) :=
    ⟨by unfold Table.Rectangular; decide, by decide, by decide, by decide⟩
  have hmutate : (apply ⟨none, .empty, Draws.first⟩ .standard
      (.grouped ⟨⟨[("x", .ints [1, 2]), ("k", .ints [3, 4])], [5, 6]⟩, ["k"]⟩)
      (.mutate [("z", .text "k"), ("k", .text "x"), ("z", .text "x")])).outcome =
        .ok (.data (.grouped ⟨⟨[("x", .ints [1, 2]), ("k", .ints [1, 2]), ("z", .ints [1, 2])],
          [5, 6]⟩, ["k"]⟩)) := by cbv
  exact ((mutate_first _ _ _).2.2 hregular _).2 _ hmutate

end Session

end TableVerbs
