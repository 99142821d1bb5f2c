import TableVerbs.Proofs.DirectLabels

/-!
# Renaming all at once

To rename is to map every name, those of the columns and those of the keys, by one
function, which takes all pairs into account. So names can be swapped, or passed on in
a circle, and a name that is given to one column does not count as the old name of
another pair. A dataset can be renamed if the old names are there and the function
does not bring two names together.

A function that keeps names apart is not seen by anything that looks columns up:
under its new name each column is found as it was under its old one, and the labels
of the rows by their groups are the same. And it can be undone. With one pair for each
old name the reversed pairs do so: the new names are as different as the old ones, and
a name that was kept is not a new name as well, or two names would have met in it.
-/

namespace TableVerbs

/-! ## What pairs make of a name -/

/-- What pairs of an old and a new name make of a name: the last pair for it counts,
and without one it is kept. -/
inductive Renames (mapping : List (String × String)) : String → String → Prop where
  | last (before after : List (String × String)) {old new : String}
      (hmapping : mapping = before ++ (old, new) :: after) (h : old ∉ after.map Prod.fst) :
      Renames mapping old new
  | kept {name : String} (h : name ∉ mapping.map Prod.fst) : Renames mapping name name

namespace Table

variable {mapping : List (String × String)} {names : List String} {old new name : String}

theorem lookup_reverse_eq_none (h : name ∉ mapping.map Prod.fst) :
    mapping.reverse.lookup name = none := by
  refine List.lookup_eq_none_iff.mpr fun pair hpair => bne_iff_ne.mpr fun hsame => h ?_
  rw [hsame]
  exact List.mem_map_of_mem (List.mem_reverse.mp hpair)

theorem newName_of_not_mem (h : name ∉ mapping.map Prod.fst) : newName mapping name = name := by
  rw [newName, lookup_reverse_eq_none h, Option.getD_none]

theorem newName_eq_iff : newName mapping old = new ↔ Renames mapping old new := by
  constructor
  · rintro rfl
    rw [newName]
    cases hlookup : mapping.reverse.lookup old with
    | none =>
        refine .kept fun hmem => ?_
        obtain ⟨new, hnew⟩ := exists_lookup_reverse hmem
        cases hnew.symm.trans hlookup
    | some new =>
        obtain ⟨after, before, hsplit, hafter⟩ := List.lookup_eq_some_iff.mp hlookup
        refine .last before.reverse after.reverse ?_ fun hmem => ?_
        · rw [← List.reverse_reverse mapping, hsplit]
          simp
        · obtain ⟨pair, hpair, rfl⟩ := List.mem_map.mp hmem
          simpa using hafter pair (List.mem_reverse.mp hpair)
  · rintro (⟨before, after, rfl, h⟩ | h)
    · rw [newName, List.reverse_append, List.reverse_cons, List.append_assoc, List.lookup_append,
        lookup_reverse_eq_none h, Option.none_or, List.singleton_append, lookup_cons_if, if_pos rfl,
        Option.getD_some]
    · exact newName_of_not_mem h

/-! ## Undoing it -/

/-- With one pair for each old name, every pair counts. -/
theorem newName_of_mem (h : (mapping.map Prod.fst).Nodup) (hpair : (old, new) ∈ mapping) :
    newName mapping old = new := by
  have hreverse : (mapping.reverse.map Prod.fst).Nodup := by
    rw [List.map_reverse]
    exact List.nodup_reverse.mpr h
  rw [newName, (lookup_eq_some_iff_mem hreverse).mpr (List.mem_reverse.mpr hpair),
    Option.getD_some]

section

variable (hold : ∀ pair ∈ mapping, pair.1 ∈ names)
  (hinj : ∀ a ∈ names, ∀ b ∈ names, newName mapping a = newName mapping b → a = b)
  (hdistinct : (mapping.map Prod.fst).Nodup)

include hold hinj hdistinct

theorem nodup_new_names : ((mapping.map Prod.swap).map Prod.fst).Nodup := by
  rw [List.map_map]
  refine (List.nodup_map_iff_inj_on (List.Nodup.of_map _ hdistinct)).mpr ?_
  rintro ⟨a, n⟩ ha ⟨b, _⟩ hb rfl
  have hab := hinj a (hold _ ha) b (hold _ hb)
    ((newName_of_mem hdistinct ha).trans (newName_of_mem hdistinct hb).symm)
  rw [hab]
  rfl

theorem newName_swap (hname : name ∈ names) :
    newName (mapping.map Prod.swap) (newName mapping name) = name := by
  by_cases hmem : name ∈ mapping.map Prod.fst
  · obtain ⟨⟨_, new⟩, hpair, rfl⟩ := List.mem_map.mp hmem
    rw [newName_of_mem hdistinct hpair]
    exact newName_of_mem (nodup_new_names hold hinj hdistinct) (List.mem_map_of_mem hpair)
  · rw [newName_of_not_mem hmem]
    refine newName_of_not_mem fun hnew => hmem ?_
    rw [List.map_map] at hnew
    obtain ⟨⟨a, _⟩, hpair, rfl⟩ := List.mem_map.mp hnew
    -- the column `a` would have got the name that this one keeps
    have hsame := hinj a (hold _ hpair) _ hname
      ((newName_of_mem hdistinct hpair).trans (newName_of_not_mem hmem).symm)
    exact hsame ▸ List.mem_map_of_mem hpair

end

end Table

/-! ## Columns under their new names -/

theorem map_map_back {α : Type} {f g : α → α} {xs : List α} (h : ∀ x ∈ xs, g (f x) = x) :
    (xs.map f).map g = xs := by
  rw [List.map_map]
  exact (List.map_congr_left h).trans (List.map_id xs)

namespace Table

variable {t : Table} {f g : String → String}

theorem find?_mapNames (hf : (t.names.map f).Nodup) {name : String} {c : Column}
    (hc : t.find? name = some c) : (t.mapNames f).find? (f name) = some c := by
  have hcolumn : (f name, c) ∈ t.columns.map fun c => (f c.1, c.2) :=
    List.mem_map_of_mem (mem_of_lookup hc)
  have hnames : (t.mapNames f).names.Nodup := (names_mapNames f).symm ▸ hf
  exact (lookup_eq_some_iff_mem hnames).mpr hcolumn

theorem groupRows_mapNames (hf : (t.names.map f).Nodup) {keys : List String}
    (hkeys : ∀ k ∈ keys, k ∈ t.names) :
    (t.mapNames f).groupRows (keys.map f) = t.groupRows keys := by
  obtain ⟨columns, hcolumns⟩ := exists_columnsOf hkeys
  have hrenamed : (t.mapNames f).columnsOf (keys.map f) = .ok columns := by
    refine mapM_eq_ok.mpr (List.forall₂_map_left_iff.mpr ?_)
    refine (mapM_eq_ok.mp hcolumns).imp fun k c hc => ?_
    exact column_eq_ok.mpr (find?_mapNames hf (column_eq_ok.mp hc))
  rw [groupRows, groupRows, hrenamed, hcolumns]
  rfl

theorem mapNames_mapNames (h : ∀ name ∈ t.names, g (f name) = name) :
    (t.mapNames f).mapNames g = t := by
  have hcolumns : (t.columns.map fun c => (f c.1, c.2)).map (fun c => (g c.1, c.2)) =
      t.columns :=
    map_map_back fun c hc => Prod.ext (h c.1 (List.mem_map_of_mem hc)) rfl
  exact congrArg (Table.mk · t.labels) hcolumns

end Table

/-! ## The verb -/

namespace Dataset

variable {d d' : Dataset} {f g : String → String} {mapping : List (String × String)}

/-- Another name for each column, and for the keys among them. -/
def mapNames (f : String → String) : Dataset → Dataset
  | .plain t => .plain (t.mapNames f)
  | .grouped g => .grouped ⟨g.table.mapNames f, g.keys.map f⟩

theorem table_mapNames : (d.mapNames f).table = d.table.mapNames f := by
  cases d <;> rfl

theorem keys_mapNames : (d.mapNames f).keys = d.keys.map f := by
  cases d <;> rfl

theorem isGrouped_mapNames : (d.mapNames f).isGrouped = d.isGrouped := by
  cases d <;> rfl

theorem mapNames_mapNames (hkeys : ∀ k ∈ d.keys, k ∈ d.table.names)
    (h : ∀ name ∈ d.table.names, g (f name) = name) : (d.mapNames f).mapNames g = d := by
  cases d with
  | plain t => exact congrArg plain (Table.mapNames_mapNames h)
  | grouped gr =>
      have hback : (gr.keys.map f).map g = gr.keys := map_map_back fun k hk => h k (hkeys k hk)
      have htable : (gr.table.mapNames f).mapNames g = gr.table := Table.mapNames_mapNames h
      simp only [mapNames, hback, htable]

theorem Regular.mapNames (hd : d.Regular) (hf : (d.table.names.map f).Nodup) :
    (d.mapNames f).Regular where
  rectangular := by
    intro c hc
    rw [table_mapNames] at hc ⊢
    obtain ⟨old, hold, rfl⟩ := List.mem_map.mp hc
    exact hd.rectangular old hold
  keys_nodup := by
    rw [keys_mapNames]
    refine hd.keys_nodup.map_on fun a ha b hb hab => ?_
    exact List.inj_on_of_nodup_map hf (hd.keys_mem a ha) (hd.keys_mem b hb) hab
  keys_mem := by
    rw [keys_mapNames, table_mapNames, Table.names_mapNames]
    intro k hk
    obtain ⟨old, hold, rfl⟩ := List.mem_map.mp hk
    exact List.mem_map_of_mem (hd.keys_mem old hold)
  grouped := by
    rw [keys_mapNames, isGrouped_mapNames, ne_eq, List.map_eq_nil_iff]
    exact hd.grouped

theorem Regular.rename_eq (hd : d.Regular) : d.rename mapping =
    (d.table.rename mapping).map fun _ => d.mapNames (Table.newName mapping) := by
  rw [rename]
  cases ht : d.table.rename mapping with
  | error e => rfl
  | ok t =>
      obtain ⟨⟨_, hnodup⟩, rfl⟩ := Table.rename_eq_ok.mp ht
      have hd' := hd.mapNames hnodup
      cases d with
      | plain t => rfl
      | grouped g =>
          have hgrouped := Grouped.ofKeys_eq_ok.mpr ⟨hd'.grouped rfl, hd'.keys_mem, rfl⟩
          rw [withoutRepeats_of_nodup hd'.keys_nodup] at hgrouped
          exact congrArg (Except.map Dataset.grouped) hgrouped

theorem Regular.rename_eq_ok (hd : d.Regular) : d.rename mapping = .ok d' ↔
    ((∀ pair ∈ mapping, pair.1 ∈ d.table.names) ∧
      (d.table.names.map (Table.newName mapping)).Nodup) ∧
      d.mapNames (Table.newName mapping) = d' := by
  simp only [hd.rename_eq, map_eq_ok, Table.rename_eq_ok]
  constructor
  · rintro ⟨_, ⟨hnames, _⟩, rfl⟩
    exact ⟨hnames, rfl⟩
  · rintro ⟨hnames, rfl⟩
    exact ⟨_, ⟨hnames, rfl⟩, rfl⟩

theorem WellFormed.rename_fails (hd : d.WellFormed) : (∃ e, d.rename mapping = .error e) ↔
    (∃ pair ∈ mapping, pair.1 ∉ d.table.names) ∨
    ∃ a ∈ d.table.names, ∃ b ∈ d.table.names, a ≠ b ∧
      ∃ name, Renames mapping a name ∧ Renames mapping b name := by
  have hsucceeds : (∃ d', d.rename mapping = .ok d') ↔
      (∀ pair ∈ mapping, pair.1 ∈ d.table.names) ∧
        (d.table.names.map (Table.newName mapping)).Nodup := by
    simp only [hd.regular.rename_eq_ok, exists_and_left, exists_eq', and_true]
  have hmeet : ∀ a b, (∃ name, Renames mapping a name ∧ Renames mapping b name) ↔
      Table.newName mapping a = Table.newName mapping b := by
    simp only [← Table.newName_eq_iff]
    exact fun a b => ⟨fun ⟨_, ha, hb⟩ => ha.trans hb.symm, fun hab => ⟨_, hab, rfl⟩⟩
  rw [fails_iff, hsucceeds, List.nodup_map_iff_inj_on hd.table.names_nodup, not_and_or]
  simp only [hmeet, not_forall, exists_prop, ne_eq, and_comm]

/-- A dataset with its names changed by pairs: each column stays in its place with its
data, and each key is what its column is called now. -/
structure Renamed (mapping : List (String × String)) (d d' : Dataset) : Prop where
  columns : List.Forall₂ (fun c c' => Renames mapping c.1 c'.1 ∧ c'.2 = c.2)
    d.table.columns d'.table.columns
  labels : d'.table.labels = d.table.labels
  keys : List.Forall₂ (Renames mapping) d.keys d'.keys
  isGrouped : d'.isGrouped = d.isGrouped

theorem renamed_mapNames : d.Renamed mapping (d.mapNames (Table.newName mapping)) where
  columns := by
    rw [table_mapNames, Table.mapNames, List.forall₂_map_right_iff, List.forall₂_same]
    exact fun c _ => ⟨Table.newName_eq_iff.mp rfl, rfl⟩
  labels := by
    rw [table_mapNames]
    rfl
  keys := by
    rw [keys_mapNames, List.forall₂_map_right_iff, List.forall₂_same]
    exact fun k _ => Table.newName_eq_iff.mp rfl
  isGrouped := isGrouped_mapNames

/-- Names that are kept apart do not show in the labels of grouped rows. -/
theorem Regular.groupIndices_mapNames (hd : d.Regular) (hgrouped : d.isGrouped = true)
    (hf : (d.table.names.map f).Nodup) (scope : Scope) (keys : List String)
    (newColumns : List NewColumn) : ∃ labels, d.groupIndices scope keys newColumns = .ok labels ∧
      (d.mapNames f).groupIndices scope keys newColumns = .ok labels := by
  cases d with
  | plain t => cases hgrouped
  | grouped g =>
      obtain ⟨labels, hlabels⟩ := Grouped.labels_succeed hd.keys_mem
      refine ⟨labels, hlabels, ?_⟩
      have hrows : (g.table.mapNames f).groupRows (g.keys.map f) = g.table.groupRows g.keys :=
        Table.groupRows_mapNames hf hd.keys_mem
      show Grouped.labels ⟨g.table.mapNames f, g.keys.map f⟩ = .ok labels
      rw [Grouped.labels, hrows]
      exact hlabels

/-- With one pair for each old name, the reversed pairs undo a renaming. -/
theorem Regular.rename_back (hd : d.Regular) (hdistinct : (mapping.map Prod.fst).Nodup)
    (h : d.rename mapping = .ok d') : d'.rename (mapping.map Prod.swap) = .ok d := by
  obtain ⟨⟨hold, hnodup⟩, rfl⟩ := hd.rename_eq_ok.mp h
  have hinj : ∀ a ∈ d.table.names, ∀ b ∈ d.table.names,
      Table.newName mapping a = Table.newName mapping b → a = b :=
    fun a ha b hb hab => List.inj_on_of_nodup_map hnodup ha hb hab
  have hback : ∀ name ∈ d.table.names,
      Table.newName (mapping.map Prod.swap) (Table.newName mapping name) = name :=
    fun _ hname => Table.newName_swap hold hinj hdistinct hname
  refine (hd.mapNames hnodup).rename_eq_ok.mpr ⟨?_, mapNames_mapNames hd.keys_mem hback⟩
  rw [table_mapNames, Table.names_mapNames]
  constructor
  · intro pair hpair
    obtain ⟨⟨old, new⟩, hmem, rfl⟩ := List.mem_map.mp hpair
    have hnew : Table.newName mapping old = new := Table.newName_of_mem hdistinct hmem
    exact hnew ▸ List.mem_map_of_mem (hold _ hmem)
  · rw [map_map_back hback]
    exact List.Nodup.of_map _ hnodup

end Dataset

/-- Renaming takes all pairs at once. It fails exactly if an old name is no column or two
columns would have one name; otherwise each column and each key has the name that the
last pair for it says, and nothing else has changed. Grouped rows have the labels that
they had, and with one pair for each old name the reversed pairs give the dataset back. -/
theorem Session.rename_at_once (s : Session) (defaults : Options) {d : Dataset}
    (hd : d.WellFormed) (mapping : List (String × String)) :
    ((∃ e, (s.apply defaults d (.rename mapping)).outcome = .error e) ↔
      (∃ pair ∈ mapping, pair.1 ∉ d.table.names) ∨
      ∃ a ∈ d.table.names, ∃ b ∈ d.table.names, a ≠ b ∧
        ∃ name, Renames mapping a name ∧ Renames mapping b name) ∧
    ∀ out, (s.apply defaults d (.rename mapping)).outcome = .ok out →
      ∃ d', out = .data d' ∧ d.Renamed mapping d' ∧
        (d.isGrouped = true → ∀ keys newColumns, ∃ labels,
          (s.apply defaults d (.groupIndices keys newColumns)).outcome = .ok (.labels labels) ∧
          (s.apply defaults d' (.groupIndices keys newColumns)).outcome =
            .ok (.labels labels)) ∧
        ((mapping.map Prod.fst).Nodup →
          (s.apply defaults d' (.rename (mapping.map Prod.swap))).outcome = .ok (.data d)) := by
  have hrename : ∀ d mapping, (s.apply defaults d (.rename mapping)).outcome =
      (d.rename mapping).map .data := fun d mapping =>
    congrArg (Except.map Output.data) (Edit.outcome_atOnce _ _ d)
  simp only [hrename, map_eq_error, map_eq_ok]
  refine ⟨hd.rename_fails, ?_⟩
  rintro _ ⟨d', hd', rfl⟩
  obtain ⟨⟨_, hnodup⟩, rfl⟩ := hd.regular.rename_eq_ok.mp hd'
  refine ⟨_, rfl, Dataset.renamed_mapNames, fun hgrouped keys newColumns => ?_, fun hdistinct => ?_⟩
  · obtain ⟨labels, hbefore, hafter⟩ :=
      hd.regular.groupIndices_mapNames hgrouped hnodup s.scope keys newColumns
    exact ⟨labels, congrArg (Except.map Output.labels) hbefore,
      congrArg (Except.map Output.labels) hafter⟩
  · exact ⟨d, hd.regular.rename_back hdistinct hd', rfl⟩

/-- Three names are passed on in a circle, that of the key among them, and back. -/
theorem Session.rename_at_once_circle :
    (Session.apply ⟨none, .empty, fun _ => [], .inTurn⟩ .standard
        (.grouped ⟨⟨[("b", .ints [2, 1]), ("c", .ints [3, 4]), ("a", .ints [5, 6])], [7, 8]⟩,
          ["b"]⟩) (.rename [("b", "a"), ("c", "b"), ("a", "c")])).outcome =
      .ok (.data (.grouped
        ⟨⟨[("a", .ints [2, 1]), ("b", .ints [3, 4]), ("c", .ints [5, 6])], [7, 8]⟩, ["a"]⟩)) ∧
    (Session.apply ⟨none, .empty, fun _ => [], .inTurn⟩ .standard
        (.grouped ⟨⟨[("a", .ints [2, 1]), ("b", .ints [3, 4]), ("c", .ints [5, 6])], [7, 8]⟩,
          ["a"]⟩) (.rename [("a", "b"), ("b", "c"), ("c", "a")])).outcome =
      .ok (.data (.grouped
        ⟨⟨[("b", .ints [2, 1]), ("c", .ints [3, 4]), ("a", .ints [5, 6])], [7, 8]⟩, ["b"]⟩)) := by
  have hwf : Dataset.WellFormed (.grouped
      ⟨⟨[("b", .ints [2, 1]), ("c", .ints [3, 4]), ("a", .ints [5, 6])], [7, 8]⟩, ["b"]⟩) :=
    ⟨⟨by decide, by decide⟩, by decide, by decide, by decide⟩
  have hout : (Session.apply ⟨none, .empty, fun _ => [], .inTurn⟩ .standard
      (.grouped ⟨⟨[("b", .ints [2, 1]), ("c", .ints [3, 4]), ("a", .ints [5, 6])], [7, 8]⟩,
        ["b"]⟩) (.rename [("b", "a"), ("c", "b"), ("a", "c")])).outcome =
      .ok (.data (.grouped
        ⟨⟨[("a", .ints [2, 1]), ("b", .ints [3, 4]), ("c", .ints [5, 6])], [7, 8]⟩, ["a"]⟩)) := by
    decide
  obtain ⟨d', hdata, _, _, hback⟩ :=
    (Session.rename_at_once ⟨none, .empty, fun _ => [], .inTurn⟩ .standard hwf _).2 _ hout
  cases hdata
  exact ⟨hout, hback (by decide)⟩

end TableVerbs
