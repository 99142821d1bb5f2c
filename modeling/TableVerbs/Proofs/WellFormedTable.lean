import Mathlib.Data.List.Nodup
import TableVerbs.Proofs.Rectangular

/-!
# Operations keep tables well formed

A table is well formed when its columns have one value for each label and no
name occurs twice. That the lengths are kept is known of every operation, so
what is left are the names. Operations on rows leave them alone, operations on
columns look after them, and only picking columns by names relies on the names
that are asked for.
-/

namespace TableVerbs.Table

variable {t t' : Table}

/-! ## Operations on rows -/

theorem names_reshape (f : {α : Type} → List α → List α) : (t.reshape f).names = t.names := by
  show (t.columns.map _).map Prod.fst = _
  rw [List.map_map]
  rfl

theorem names_take {positions : List Nat} (h : t.take positions = .ok t') :
    t'.names = t.names := by
  rw [Table.take] at h
  split at h
  · cases h
  · cases h
    exact names_reshape _

theorem names_filter {mask : List Bool} (h : t.filter mask = .ok t') : t'.names = t.names := by
  rw [Table.filter] at h
  split at h
  · cases h
  · cases h
    exact names_reshape _

theorem names_dropDuplicates {names : Option (List String)} {keep : Keep}
    (h : t.dropDuplicates names keep = .ok t') : t'.names = t.names := by
  simp only [Table.dropDuplicates] at h
  split at h
  · cases h
  · exact names_filter h

/-- A rearrangement that treats lists of one length alike. -/
theorem WellFormed.reshape {f : {α : Type} → List α → List α} (wf : t.WellFormed)
    (hf : ∀ {α β : Type} (xs : List α) (ys : List β), xs.length = ys.length →
      (f xs).length = (f ys).length) : (t.reshape f).WellFormed where
  lengths := Rectangular.reshape wf.lengths hf
  names_nodup := (names_reshape f).symm ▸ wf.names_nodup

theorem WellFormed.gather (wf : t.WellFormed) (positions : List Nat) :
    (t.gather positions).WellFormed :=
  wf.reshape fun _ _ h => length_pick_congr h positions

theorem WellFormed.filter (wf : t.WellFormed) {mask : List Bool} (h : t.filter mask = .ok t') :
    t'.WellFormed where
  lengths := Rectangular.filter wf.lengths h
  names_nodup := (names_filter h).symm ▸ wf.names_nodup

theorem WellFormed.dropDuplicates (wf : t.WellFormed) {names : Option (List String)}
    {keep : Keep} (h : t.dropDuplicates names keep = .ok t') : t'.WellFormed where
  lengths := Rectangular.dropDuplicates wf.lengths h
  names_nodup := (names_dropDuplicates h).symm ▸ wf.names_nodup

theorem WellFormed.relabelled (wf : t.WellFormed) : t.relabelled.WellFormed where
  lengths := Rectangular.relabelled wf.lengths
  names_nodup := wf.names_nodup

/-! ## Operations on columns -/

theorem wellFormed_of_labels (labels : List Nat) : WellFormed ⟨[], labels⟩ where
  lengths := rectangular_of_labels labels
  names_nodup := List.nodup_nil

theorem names_selectMask {mask : List Bool} (h : t.selectMask mask = .ok t') :
    t'.names.Sublist t.names := by
  rw [Table.selectMask] at h
  split at h
  · cases h
  · cases h
    exact (marked_sublist mask t.columns).map Prod.fst

theorem WellFormed.selectMask (wf : t.WellFormed) {mask : List Bool}
    (h : t.selectMask mask = .ok t') : t'.WellFormed where
  lengths := Rectangular.selectMask wf.lengths h
  names_nodup := wf.names_nodup.sublist (names_selectMask h)

theorem names_select {names : List String} (h : t.select names = .ok t') : t'.names = names := by
  obtain ⟨columns, hcolumns, rfl⟩ := select_eq_ok.mp h
  exact map_fst_of_mapM hcolumns

theorem labels_select {names : List String} (h : t.select names = .ok t') :
    t'.labels = t.labels := by
  obtain ⟨_, _, rfl⟩ := select_eq_ok.mp h
  rfl

/-- Picked columns are well formed if none is picked twice. -/
theorem WellFormed.select (wf : t.WellFormed) {names : List String} (hnames : names.Nodup)
    (h : t.select names = .ok t') : t'.WellFormed ∧ t'.names = names :=
  ⟨⟨Rectangular.select wf.lengths h, (names_select h).symm ▸ hnames⟩, names_select h⟩

/-- The names after a column is set: the same, or one more at the end. -/
theorem names_putColumn (name : String) (c : Column) (columns : List (String × Column)) :
    (putColumn name c columns).map Prod.fst =
      if name ∈ columns.map Prod.fst then columns.map Prod.fst
      else columns.map Prod.fst ++ [name] := by
  induction columns with
  | nil => rfl
  | cons e rest ih =>
      obtain ⟨other, e⟩ := e
      rw [putColumn]
      by_cases h : other = name
      · rw [if_pos h, if_pos (h ▸ List.mem_cons_self)]
        rfl
      · rw [if_neg h, List.map_cons, List.map_cons, ih]
        have hmem : name ∈ other :: rest.map Prod.fst ↔ name ∈ rest.map Prod.fst :=
          List.mem_cons.trans (or_iff_right (Ne.symm h))
        by_cases hrest : name ∈ rest.map Prod.fst
        · rw [if_pos hrest, if_pos (hmem.mpr hrest)]
        · rw [if_neg hrest, if_neg (mt hmem.mp hrest)]
          rfl

theorem names_setColumn {name : String} {c : Column} (h : t.setColumn name c = .ok t') :
    t'.names = if name ∈ t.names then t.names else t.names ++ [name] := by
  obtain ⟨_, rfl⟩ := setColumn_eq_ok.mp h
  exact names_putColumn name c t.columns

theorem nodup_setColumn {name : String} {c : Column} (hnames : t.names.Nodup)
    (h : t.setColumn name c = .ok t') : t'.names.Nodup := by
  rw [names_setColumn h]
  split
  · exact hnames
  next hnew =>
    exact hnames.append (List.nodup_singleton name) (List.disjoint_singleton.mpr hnew)

theorem WellFormed.setColumn (wf : t.WellFormed) {name : String} {c : Column}
    (h : t.setColumn name c = .ok t') : t'.WellFormed ∧ t.names ⊆ t'.names := by
  refine ⟨⟨Rectangular.setColumn wf.lengths h, nodup_setColumn wf.names_nodup h⟩, ?_⟩
  rw [names_setColumn h]
  split
  · exact List.Subset.refl _
  · exact List.subset_append_left _ _

theorem WellFormed.setColumns (wf : t.WellFormed) {values : List (String × Column)}
    (h : t.setColumns values = .ok t') : t'.WellFormed := by
  induction values generalizing t with
  | nil => cases h; exact wf
  | cons v rest ih =>
      rw [Table.setColumns] at h
      split at h
      · cases h
      · next t₁ hset => exact ih (wf.setColumn hset).1 h

theorem names_insertColumn {place : Nat} {name : String} {c : Column}
    (h : t.insertColumn place name c = .ok t') :
    name ∉ t.names ∧ t'.names.Perm (name :: t.names) := by
  rw [Table.insertColumn] at h
  split at h
  · cases h
  next hhas =>
    split at h
    · cases h
    · cases h
      exact ⟨fun hmem => hhas (has_iff.mpr hmem),
        (perm_insert t.columns place (name, c)).map Prod.fst⟩

theorem nodup_insertColumn {place : Nat} {name : String} {c : Column} (hnames : t.names.Nodup)
    (h : t.insertColumn place name c = .ok t') : t'.names.Nodup := by
  obtain ⟨hnew, hperm⟩ := names_insertColumn h
  exact hperm.nodup_iff.mpr (List.nodup_cons.mpr ⟨hnew, hnames⟩)

theorem WellFormed.insertColumn (wf : t.WellFormed) {place : Nat} {name : String} {c : Column}
    (h : t.insertColumn place name c = .ok t') :
    t'.WellFormed ∧ ∀ n, n ∈ t'.names ↔ n = name ∨ n ∈ t.names :=
  ⟨⟨Rectangular.insertColumn wf.lengths h, nodup_insertColumn wf.names_nodup h⟩,
    fun _ => (names_insertColumn h).2.mem_iff.trans List.mem_cons⟩

theorem firstRepeat?_eq_none {names seen : List String} :
    firstRepeat? seen names = none ↔ names.Nodup ∧ ∀ n ∈ names, n ∉ seen := by
  induction names generalizing seen with
  | nil => simp [firstRepeat?]
  | cons n rest ih =>
      rw [firstRepeat?, List.nodup_cons, List.forall_mem_cons]
      by_cases hn : n ∈ seen
      · simp [hn]
      · rw [if_neg hn, ih]
        constructor
        · rintro ⟨hnodup, hfresh⟩
          exact ⟨⟨fun hmem => hfresh n hmem List.mem_cons_self, hnodup⟩, hn,
            fun m hm hseen => hfresh m hm (List.mem_cons_of_mem _ hseen)⟩
        · rintro ⟨⟨hnew, hnodup⟩, _, hfresh⟩
          refine ⟨hnodup, fun m hm hseen => ?_⟩
          rcases List.mem_cons.mp hseen with rfl | hseen
          · exact hnew hm
          · exact hfresh m hm hseen

/-- Another name for each column. -/
def mapNames (f : String → String) (t : Table) : Table :=
  ⟨t.columns.map fun c => (f c.1, c.2), t.labels⟩

theorem names_mapNames (f : String → String) : (t.mapNames f).names = t.names.map f := by
  rw [mapNames, names, names, List.map_map, List.map_map]
  rfl

/-- Columns are renamed if all old names are columns and no two columns would have one
name. -/
theorem rename_eq_ok {mapping : List (String × String)} : t.rename mapping = .ok t' ↔
    ((∀ pair ∈ mapping, pair.1 ∈ t.names) ∧ (t.names.map (newName mapping)).Nodup) ∧
      t' = t.mapNames (newName mapping) := by
  have hmissing : mapping.find? (fun pair => !t.has pair.1) = none ↔
      ∀ pair ∈ mapping, pair.1 ∈ t.names := by
    simp only [List.find?_eq_none, Bool.not_eq_true', Bool.not_eq_false, has_iff]
  have hrepeat : firstRepeat? [] ((t.columns.map fun c => (newName mapping c.1, c.2)).map
      Prod.fst) = none ↔ (t.names.map (newName mapping)).Nodup := by
    rw [firstRepeat?_eq_none, ← names_mapNames]
    simp [mapNames, names]
  rw [rename, ← hmissing, ← hrepeat]
  split
  · next pair hpair => simp [hpair]
  · next hnone =>
      simp only
      split
      · next n hn =>
          rw [hn]
          simp
      · next hn =>
          rw [hnone, hn]
          simp [mapNames, eq_comm]

theorem nodup_rename {mapping : List (String × String)} (h : t.rename mapping = .ok t') :
    t'.names.Nodup := by
  obtain ⟨⟨_, hnodup⟩, rfl⟩ := rename_eq_ok.mp h
  rw [names_mapNames]
  exact hnodup

theorem WellFormed.rename (wf : t.WellFormed) {mapping : List (String × String)}
    (h : t.rename mapping = .ok t') : t'.WellFormed where
  lengths := Rectangular.rename wf.lengths h
  names_nodup := nodup_rename h

/-! ## Stacking -/

theorem nodup_stack {tables : List Table} (h : ∀ u ∈ tables, u.names.Nodup)
    (ht : stack tables = .ok t) : t.names.Nodup := by
  cases tables with
  | nil =>
      cases ht
      exact List.nodup_nil
  | cons first rest =>
      obtain ⟨_, hcolumns, _⟩ := stack_cons ht
      have hnames : t.names = first.names := by
        unfold stackColumn at hcolumns
        exact map_fst_of_mapM hcolumns
      rw [hnames]
      exact h first List.mem_cons_self

theorem wellFormed_stack {tables : List Table} (wf : ∀ u ∈ tables, u.WellFormed)
    (h : stack tables = .ok t) : t.WellFormed where
  lengths := Rectangular.stack (fun u hu => (wf u hu).lengths) h
  names_nodup := nodup_stack (fun u hu => (wf u hu).names_nodup) h

end TableVerbs.Table
