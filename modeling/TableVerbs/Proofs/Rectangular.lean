import TableVerbs.Proofs.Picking
import TableVerbs.Proofs.StackLength
import TableVerbs.Proofs.Success
import TableVerbs.Table.Columns
import TableVerbs.Table.Keys
import TableVerbs.Table.Stack

/-!
# Every operation leaves a value for each label

Columns and labels are kept apart, and each operation rebuilds both, so that the
columns are still as long as the labels has to be seen for each. An operation on
rows does the same to every list: how long the result is depends on how long the
list was and on nothing else. An operation on columns leaves the labels alone and
takes a new column of their length only.

None of this asks whether names are distinct. Where a name stands twice, its first
column is found, and that one is as long as any other.
-/

namespace TableVerbs

variable {α β : Type}

/-- The members of a list that a mask marks. -/
def marked (mask : List Bool) (xs : List α) : List α :=
  (xs.zip mask).filterMap fun (x, keep) => if keep then some x else none

theorem marked_cons (keep : Bool) (mask : List Bool) (x : α) (xs : List α) :
    marked (keep :: mask) (x :: xs) = if keep then x :: marked mask xs else marked mask xs := by
  cases keep <;> rfl

/-- A mask that is made of the members themselves. -/
theorem marked_map (p : α → Bool) (xs : List α) : marked (xs.map p) xs = xs.filter p := by
  induction xs with
  | nil => rfl
  | cons x rest ih => rw [List.map_cons, marked_cons, List.filter_cons, ih]

/-- A mask that marks the first members only. -/
theorem marked_prefix {xs : List α} {k : Nat} (h : k ≤ xs.length) :
    marked (List.replicate k true ++ List.replicate (xs.length - k) false) xs = xs.take k := by
  induction xs generalizing k with
  | nil => rw [marked, List.zip_nil_left, List.filterMap_nil, List.take_nil]
  | cons x rest ih =>
      cases k with
      | zero => exact ih (Nat.zero_le _)
      | succ k =>
          have hrest := ih (Nat.le_of_succ_le_succ h)
          rw [List.length_cons, Nat.add_sub_add_right, List.replicate_succ, List.cons_append,
            marked_cons, if_pos rfl, hrest, List.take_succ_cons]

theorem length_marked_congr {mask : List Bool} {xs : List α} {ys : List β}
    (h : xs.length = ys.length) : (marked mask xs).length = (marked mask ys).length := by
  induction mask generalizing xs ys with
  | nil => simp only [marked, List.zip_nil_right, List.filterMap_nil, List.length_nil]
  | cons keep rest ih =>
      cases xs with
      | nil =>
          rw [List.length_eq_zero_iff.mp h.symm]
          rfl
      | cons x xs =>
          obtain ⟨y, ys, rfl⟩ := List.exists_cons_of_length_eq_add_one h.symm
          have hrest := ih (Nat.succ.inj h)
          cases keep with
          | true => exact congrArg Nat.succ hrest
          | false => exact hrest

theorem marked_sublist (mask : List Bool) (xs : List α) : (marked mask xs).Sublist xs := by
  induction xs generalizing mask with
  | nil => exact List.Sublist.refl _
  | cons x rest ih =>
      cases mask with
      | nil => exact List.nil_sublist _
      | cons keep mask =>
          cases keep with
          | true => exact (ih mask).cons_cons x
          | false => exact (ih mask).cons x

namespace Table

variable {t t' : Table}

/-- As many values in each column as there are labels. -/
def Rectangular (t : Table) : Prop := ∀ c ∈ t.columns, c.2.length = t.rows

theorem has_iff {name : String} : t.has name = true ↔ name ∈ t.names := List.contains_iff_mem

theorem rectangular_of_labels (labels : List Nat) : Rectangular ⟨[], labels⟩ := by
  intro c hc
  cases hc

/-! ## Operations on rows -/

/-- A rearrangement that treats lists of one length alike. -/
theorem Rectangular.reshape {f : {α : Type} → List α → List α} (h : t.Rectangular)
    (hf : ∀ {α β : Type} (xs : List α) (ys : List β), xs.length = ys.length →
      (f xs).length = (f ys).length) : (t.reshape f).Rectangular := by
  intro c hc
  obtain ⟨d, hd, rfl⟩ := List.mem_map.mp hc
  have hlen := h d hd
  show (d.2.reshape f).length = (f t.labels).length
  cases hcol : d.2 with
  | ints xs | floats xs | bools xs | strs xs =>
      rw [hcol] at hlen
      exact hf xs t.labels hlen

theorem Rectangular.gather (h : t.Rectangular) (positions : List Nat) :
    (t.gather positions).Rectangular :=
  h.reshape fun _ _ hlen => length_pick_congr hlen positions

theorem Rectangular.take (h : t.Rectangular) {positions : List Nat}
    (ht : t.take positions = .ok t') : t'.Rectangular := by
  rw [Table.take] at ht
  split at ht
  · cases ht
  · cases ht
    exact h.gather positions

theorem Rectangular.filter (h : t.Rectangular) {mask : List Bool} (ht : t.filter mask = .ok t') :
    t'.Rectangular := by
  rw [Table.filter] at ht
  split at ht
  · cases ht
  · cases ht
    exact h.reshape fun _ _ hlen => length_marked_congr hlen

theorem Rectangular.dropDuplicates (h : t.Rectangular) {names : Option (List String)}
    {keep : Keep} (ht : t.dropDuplicates names keep = .ok t') : t'.Rectangular := by
  simp only [Table.dropDuplicates] at ht
  split at ht
  · cases ht
  · exact h.filter ht

theorem Rectangular.relabelled (h : t.Rectangular) : t.relabelled.Rectangular := by
  intro c hc
  exact (h c hc).trans List.length_range.symm

/-! ## Operations on columns -/

theorem Rectangular.selectMask (h : t.Rectangular) {mask : List Bool}
    (ht : t.selectMask mask = .ok t') : t'.Rectangular := by
  rw [Table.selectMask] at ht
  split at ht
  · cases ht
  · cases ht
    intro c hc
    exact h c ((marked_sublist mask t.columns).mem hc)

theorem select_eq_ok {names : List String} : t.select names = .ok t' ↔
    ∃ columns, (names.mapM fun n => (t.column n).map fun c => (n, c)) = .ok columns ∧
      t' = ⟨columns, t.labels⟩ := by
  rw [select]
  cases names.mapM fun n => (t.column n).map fun c => (n, c) with
  | error e => simp
  | ok columns => simp [eq_comm]

theorem Rectangular.select (h : t.Rectangular) {names : List String}
    (ht : t.select names = .ok t') : t'.Rectangular := by
  obtain ⟨columns, hcolumns, rfl⟩ := select_eq_ok.mp ht
  intro c hc
  obtain ⟨name, _, hname⟩ := mem_of_mapM hcolumns hc
  obtain ⟨d, hd, rfl⟩ := map_eq_ok.mp hname
  rw [column] at hd
  split at hd
  · next hfind =>
      cases hd
      exact h _ (mem_of_find? hfind)
  · cases hd

theorem mem_putColumn {name : String} {c : Column} {columns : List (String × Column)}
    {d : String × Column} (h : d ∈ putColumn name c columns) : d = (name, c) ∨ d ∈ columns := by
  induction columns with
  | nil => exact .inl (List.mem_singleton.mp h)
  | cons e rest ih =>
      obtain ⟨other, e⟩ := e
      rw [putColumn] at h
      split at h
      · next heq =>
          rcases List.mem_cons.mp h with rfl | h
          · exact .inl (heq ▸ rfl)
          · exact .inr (List.mem_cons_of_mem _ h)
      · rcases List.mem_cons.mp h with rfl | h
        · exact .inr List.mem_cons_self
        · exact (ih h).imp_right (List.mem_cons_of_mem _)

theorem setColumn_eq_ok {name : String} {c : Column} : t.setColumn name c = .ok t' ↔
    c.length = t.rows ∧ t' = ⟨putColumn name c t.columns, t.labels⟩ := by
  rw [setColumn]
  by_cases hlen : c.length = t.rows <;> simp [hlen, eq_comm]

theorem Rectangular.setColumn (h : t.Rectangular) {name : String} {c : Column}
    (ht : t.setColumn name c = .ok t') : t'.Rectangular := by
  obtain ⟨hlen, rfl⟩ := setColumn_eq_ok.mp ht
  intro d hd
  rcases mem_putColumn hd with rfl | hd
  · exact hlen
  · exact h d hd

theorem perm_insert (columns : List (String × Column)) (place : Nat) (c : String × Column) :
    (columns.take place ++ c :: columns.drop place).Perm (c :: columns) := by
  refine List.perm_middle.trans ?_
  rw [List.take_append_drop]

theorem Rectangular.insertColumn (h : t.Rectangular) {place : Nat} {name : String} {c : Column}
    (ht : t.insertColumn place name c = .ok t') : t'.Rectangular := by
  rw [Table.insertColumn] at ht
  split at ht
  · cases ht
  split at ht
  · cases ht
  next hlen =>
    cases ht
    intro d hd
    rcases List.mem_cons.mp ((perm_insert t.columns place (name, c)).mem_iff.mp hd) with rfl | hd
    · exact not_not.mp hlen
    · exact h d hd

theorem Rectangular.rename (h : t.Rectangular) {mapping : List (String × String)}
    (ht : t.rename mapping = .ok t') : t'.Rectangular := by
  rw [Table.rename] at ht
  split at ht
  · cases ht
  simp only at ht
  split at ht
  · cases ht
  · cases ht
    intro c hc
    obtain ⟨d, hd, rfl⟩ := List.mem_map.mp hc
    exact h d hd

/-! ## Stacking -/

theorem exists_find?_of_mem {name : String} (h : name ∈ t.names) : ∃ c, t.find? name = some c := by
  obtain ⟨c, hc, rfl⟩ := List.mem_map.mp h
  exact Option.isSome_iff_exists.mp
    (List.lookup_isSome_iff.mpr ⟨c, hc, beq_self_eq_true c.1⟩)

theorem mem_names_iff {name : String} : name ∈ t.names ↔ ∃ c, t.find? name = some c := by
  refine ⟨exists_find?_of_mem, fun ⟨c, hc⟩ => ?_⟩
  exact List.mem_map_of_mem (mem_of_find? hc)

theorem find?_eq_none {name : String} (h : name ∉ t.names) : t.find? name = none := by
  cases hfind : t.find? name with
  | none => rfl
  | some c => exact absurd (mem_names_iff.mpr ⟨c, hfind⟩) h

/-- The columns of a name in tables that all have it are as long as the tables. -/
theorem totalSize_filterMap {tables : List Table} {name : String}
    (h : ∀ t ∈ tables, t.Rectangular) (hname : ∀ t ∈ tables, name ∈ t.names) :
    totalSize Column.length (tables.filterMap fun t => t.find? name) = totalSize rows tables := by
  induction tables with
  | nil => rfl
  | cons t rest ih =>
      obtain ⟨ht, hrest⟩ := List.forall_mem_cons.mp h
      obtain ⟨hn, hnrest⟩ := List.forall_mem_cons.mp hname
      obtain ⟨c, hc⟩ := exists_find?_of_mem hn
      have hlen : c.length = t.rows := ht _ (mem_of_find? hc)
      simp only [List.filterMap_cons, hc]
      rw [totalSize, totalSize, ih hrest hnrest, hlen]

/-- What a stack of tables is made of. -/
theorem stack_cons {first : Table} {rest : List Table} (h : stack (first :: rest) = .ok t) :
    (∀ name ∈ first.names, ∀ u ∈ first :: rest, name ∈ u.names) ∧
      first.names.mapM (stackColumn (first :: rest)) = .ok t.columns ∧
      t.labels = List.range (totalSize rows (first :: rest)) := by
  rw [stack] at h
  split at h
  · cases h
  next hlike =>
    split at h
    · cases h
    next columns hcolumns =>
      cases h
      refine ⟨fun name hname u hu => ?_, hcolumns, rfl⟩
      rcases List.mem_cons.mp hu with rfl | hu
      · exact hname
      · have hsame : first.sameNames u = true := by simpa using List.find?_eq_none.mp hlike u hu
        have hhas := (Bool.and_eq_true_iff.mp hsame).1
        exact has_iff.mp (List.all_eq_true.mp hhas name hname)

theorem Rectangular.stack {tables : List Table} (h : ∀ u ∈ tables, u.Rectangular)
    (ht : stack tables = .ok t) : t.Rectangular := by
  cases tables with
  | nil =>
      cases ht
      exact rectangular_of_labels []
  | cons first rest =>
      obtain ⟨hnames, hcolumns, hlabels⟩ := stack_cons ht
      intro c hc
      obtain ⟨name, hname, hstack⟩ := mem_of_mapM hcolumns hc
      obtain ⟨d, hd, rfl⟩ := map_eq_ok.mp hstack
      show d.length = t.labels.length
      rw [hlabels, List.length_range, Column.length_stack hd,
        totalSize_filterMap h (hnames name hname)]

end Table

end TableVerbs
