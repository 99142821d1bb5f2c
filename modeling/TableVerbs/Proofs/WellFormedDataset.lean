import TableVerbs.Proofs.Schedules
import TableVerbs.Proofs.WellFormedTable

/-!
# Splitting and stacking keep datasets well formed

The keys of a dataset are checked once, when it is grouped. What is shown here
is that the check suffices, that dropping the keys that are gone leaves a
dataset well formed, and that taking a grouped table apart and putting the
changed parts on top of each other makes a well-formed table again.
-/

namespace TableVerbs

/-! ## Keys -/

theorem nodup_eraseDups {α : Type} [BEq α] [LawfulBEq α] : (xs : List α) → xs.eraseDups.Nodup
  | [] => List.nodup_nil
  | x :: rest => by
      rw [List.eraseDups_cons]
      refine List.nodup_cons.mpr ⟨fun hmem => ?_, nodup_eraseDups _⟩
      simpa using (List.mem_filter.mp (List.mem_eraseDups.mp hmem)).2
termination_by xs => xs.length
decreasing_by exact Nat.lt_succ_of_le (List.length_filter_le _ _)

theorem nodup_withoutRepeats (names : List String) : (withoutRepeats names).Nodup :=
  nodup_eraseDups names

theorem mem_withoutRepeats {names : List String} {name : String} :
    name ∈ withoutRepeats names ↔ name ∈ names := List.mem_eraseDups

theorem withoutRepeats_ne_nil {names : List String} (h : names ≠ []) :
    withoutRepeats names ≠ [] := by
  obtain ⟨name, hname⟩ := List.exists_mem_of_ne_nil names h
  exact List.ne_nil_of_mem (mem_withoutRepeats.mpr hname)

theorem withoutRepeats_of_nodup {names : List String} (h : names.Nodup) :
    withoutRepeats names = names := by
  induction names with
  | nil => rfl
  | cons name rest ih =>
      obtain ⟨hname, hrest⟩ := List.nodup_cons.mp h
      have hkept : rest.filter (fun other => !other == name) = rest := by
        refine List.filter_eq_self.mpr fun other hother => ?_
        have hne : other ≠ name := fun e => hname (e ▸ hother)
        simpa using hne
      rw [withoutRepeats, List.eraseDups_cons, hkept]
      exact congrArg (name :: ·) (ih hrest)

theorem withoutRepeats_snoc (names : List String) (name : String) :
    withoutRepeats (names ++ [name]) =
      if name ∈ names then withoutRepeats names else withoutRepeats names ++ [name] := by
  rw [withoutRepeats, List.eraseDups_append]
  by_cases h : name ∈ names
  · rw [if_pos h]
    simp [List.removeAll, h, withoutRepeats]
  · rw [if_neg h]
    simp [List.removeAll, h, withoutRepeats, List.eraseDups_cons]

/-- A table under keys that are there, repeats removed. -/
theorem Table.WellFormed.grouped {t : Table} (wf : t.WellFormed) {keys : List String}
    (hne : keys ≠ []) (hkeys : ∀ k ∈ keys, k ∈ t.names) :
    Grouped.WellFormed ⟨t, withoutRepeats keys⟩ where
  table := wf
  keys_ne_nil := withoutRepeats_ne_nil hne
  keys_nodup := nodup_withoutRepeats keys
  keys_mem := fun k hk => hkeys k (mem_withoutRepeats.mp hk)

/-- A table can be grouped by names if there are some and all are columns. -/
theorem Grouped.ofKeys_eq_ok {t : Table} {keys : List String} {g : Grouped} :
    ofKeys t keys = .ok g ↔
      keys ≠ [] ∧ (∀ k ∈ keys, k ∈ t.names) ∧ g = ⟨t, withoutRepeats keys⟩ := by
  have hmissing : keys.find? (fun k => !t.has k) = none ↔ ∀ k ∈ keys, k ∈ t.names := by
    simp only [List.find?_eq_none, Bool.not_eq_true', Bool.not_eq_false, Table.has_iff]
  rw [ofKeys]
  split
  · next k hk => simp [← hmissing, hk]
  · next hk =>
      rw [hmissing] at hk
      split
      · next hempty => simp [List.isEmpty_iff.mp hempty]
      · next hempty =>
          rw [List.isEmpty_iff] at hempty
          simp only [Except.ok.injEq, hempty, ne_eq, not_false_eq_true, true_and]
          exact ⟨fun h => ⟨hk, h.symm⟩, fun h => h.2.symm⟩

theorem Table.WellFormed.ofKeys {t : Table} (wf : t.WellFormed) {keys : List String} {g : Grouped}
    (h : Grouped.ofKeys t keys = .ok g) : g.WellFormed := by
  obtain ⟨hne, hkeys, rfl⟩ := Grouped.ofKeys_eq_ok.mp h
  exact wf.grouped hne hkeys

namespace Dataset

variable {d : Dataset}

theorem WellFormed.table (wf : d.WellFormed) : d.table.WellFormed := by
  cases d with
  | plain t => exact wf
  | grouped g => exact Grouped.WellFormed.table wf

theorem WellFormed.retag {t : Table} (wf : t.WellFormed) (d : Dataset) : (d.retag t).WellFormed := by
  rw [Dataset.retag]
  split
  · exact wf
  next hkeys =>
    refine wf.grouped hkeys fun k hk => ?_
    exact Table.has_iff.mp (List.mem_filter.mp hk).2

theorem table_retag (t : Table) : (d.retag t).table = t := by
  rw [retag]
  split <;> rfl

theorem keys_retag (t : Table) : (d.retag t).keys = withoutRepeats (d.keys.filter t.has) := by
  rw [retag]
  split
  next hnone =>
    rw [hnone]
    rfl
  next => rfl

/-- Keys that were kept once are kept again, while the names are the same. -/
theorem retag_retag {t u : Table} (h : t.names = u.names) :
    (d.retag t).retag u = d.retag u := by
  have hhas : u.has = t.has := funext fun name => by rw [Table.has, Table.has, h]
  have hkeys : (d.retag t).keys.filter u.has = withoutRepeats (d.keys.filter u.has) := by
    rw [keys_retag, hhas, List.filter_eq_self]
    intro name hname
    exact (List.mem_filter.mp (mem_withoutRepeats.mp hname)).2
  rw [retag, hkeys]
  rw [retag]
  cases hnames : d.keys.filter u.has with
  | nil => rfl
  | cons name rest =>
      have hne := withoutRepeats_ne_nil (List.cons_ne_nil name rest)
      split
      next hnil => exact absurd hnil hne
      next keys hcons => rw [withoutRepeats_of_nodup (nodup_withoutRepeats _)]

/-- Another table with the same names and more. -/
theorem WellFormed.withTable (wf : d.WellFormed) {t : Table} (ht : t.WellFormed)
    (hnames : d.table.names ⊆ t.names) : (d.withTable t).WellFormed := by
  cases d with
  | plain _ => exact ht
  | grouped g =>
      have hg : g.WellFormed := wf
      exact ⟨ht, hg.keys_ne_nil, hg.keys_nodup, fun k hk => hnames (hg.keys_mem k hk)⟩

/-- What every dataset has, also one with a name that occurs twice: columns that are
as long as the table, and keys that are columns, each once and at least one where the
dataset is grouped. -/
structure Regular (d : Dataset) : Prop where
  rectangular : d.table.Rectangular
  keys_nodup : d.keys.Nodup
  keys_mem : ∀ k ∈ d.keys, k ∈ d.table.names
  grouped : d.isGrouped = true → d.keys ≠ []

theorem WellFormed.regular (wf : d.WellFormed) : d.Regular := by
  refine ⟨wf.table.lengths, ?_, ?_, ?_⟩
  · cases d with
    | plain t => exact List.nodup_nil
    | grouped g => exact Grouped.WellFormed.keys_nodup wf
  · cases d with
    | plain t => exact fun _ hk => by cases hk
    | grouped g => exact Grouped.WellFormed.keys_mem wf
  · cases d with
    | plain t => exact fun h => by cases h
    | grouped g => exact fun _ => Grouped.WellFormed.keys_ne_nil wf

/-- Another table that still has the keys. -/
theorem Regular.withTable (hd : d.Regular) {t : Table} (ht : t.Rectangular)
    (hkeys : ∀ k ∈ d.keys, k ∈ t.names) : (d.withTable t).Regular := by
  cases d with
  | plain u => exact ⟨ht, hd.keys_nodup, hkeys, hd.grouped⟩
  | grouped g => exact ⟨ht, hd.keys_nodup, hkeys, hd.grouped⟩

theorem Regular.gather (hd : d.Regular) (positions : List Nat) :
    (d.withTable (d.table.gather positions)).Regular := by
  have hnames : (d.table.gather positions).names = d.table.names := Table.names_gather
  exact hd.withTable (hd.rectangular.gather positions) fun k hk => hnames ▸ hd.keys_mem k hk

/-- While a table has all keys, they are all kept. -/
theorem Regular.retag_of_keys (hd : d.Regular) (h : ∀ k ∈ d.keys, k ∈ t.names) :
    d.retag t = d.withTable t := by
  have hkeys : d.keys.filter t.has = d.keys :=
    List.filter_eq_self.mpr fun k hk => Table.has_iff.mpr (h k hk)
  rw [retag, hkeys]
  cases d with
  | plain u => rfl
  | grouped g =>
      have hne := hd.grouped rfl
      split
      next hnil => exact absurd hnil hne
      next =>
        rw [withoutRepeats_of_nodup hd.keys_nodup]
        rfl

theorem Regular.retag_eq (hd : d.Regular) (h : t.names = d.table.names) :
    d.retag t = d.withTable t :=
  hd.retag_of_keys fun k hk => h ▸ hd.keys_mem k hk

/-- Without any of the keys a dataset is plain. -/
theorem retag_eq_plain (h : ∀ k ∈ d.keys, k ∉ t.names) : d.retag t = .plain t := by
  have hkeys : d.keys.filter t.has = [] :=
    List.filter_eq_nil_iff.mpr fun k hk => mt Table.has_iff.mp (h k hk)
  rw [retag, hkeys]

end Dataset

/-! ## Partitions -/

namespace Grouped

variable {g : Grouped}

theorem WellFormed.partitions (wf : g.WellFormed) {partitions : List Partition}
    (h : g.partitions = .ok partitions) : ∀ p ∈ partitions, p.table.WellFormed := by
  intro p hp
  obtain ⟨groups, _, rfl⟩ := map_eq_ok.mp h
  obtain ⟨group, _, rfl⟩ := List.mem_map.mp hp
  exact wf.table.gather group.2

/-- Changing every partition to a well-formed table. -/
theorem WellFormed.mapPartitions (wf : g.WellFormed) {f : Partition → Except Error Table}
    (hf : ∀ p t, p.table.WellFormed → f p = .ok t → t.WellFormed) {schedule : Schedule}
    {t : Table} (h : g.mapPartitions f schedule = .ok t) : t.WellFormed := by
  rw [Grouped.mapPartitions] at h
  split at h
  · cases h
  · obtain ⟨selected, hselected, rfl⟩ := map_eq_ok.mp h
    exact (wf.table.select wf.keys_nodup hselected).1.relabelled
  next partitions _ hpartitions =>
    split at h
    · cases h
    next tables htables =>
      refine Table.wellFormed_stack (fun u hu => ?_) h
      obtain ⟨p, hp, hfp⟩ := mem_of_mapM (Schedule.collect_eq_ok.mp htables) hu
      exact hf p u (wf.partitions hpartitions p hp) hfp

end Grouped

end TableVerbs
