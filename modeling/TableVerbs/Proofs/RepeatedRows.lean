import TableVerbs.Proofs.Fingerprints
import TableVerbs.Proofs.PickedTables
import TableVerbs.Proofs.GroupedRows
import TableVerbs.Expr.Reducer

/-!
# Dropping repeated rows agrees with grouping

Repeated rows are found by counting: how often a key occurs, and how often it has
occurred by a row. Grouping lists the rows of a key in ascending order. So the second
number is the length of the group up to the row and the first is the length of the
group, and each way of keeping rows asks for a place in it: the first, the last, or the
only one. A key has one such place at most, so the rows that are kept have different
keys, and dropping repeated rows from them leaves all of them.
-/

namespace TableVerbs

namespace Keep

/-- Whether a row is the one that is kept of the rows of a key. -/
def Keeps (keep : Keep) (rows : List Nat) (row : Nat) : Prop :=
  match keep with
  | .first => rows.head? = some row
  | .last => rows.getLast? = some row
  | .none => rows = [row]

variable {keep : Keep} {rows : List Nat} {row row' : Nat}

theorem Keeps.mem (h : keep.Keeps rows row) : row ∈ rows := by
  cases keep with
  | first => exact List.mem_of_head? h
  | last => exact List.mem_of_getLast? h
  | none =>
      rw [show rows = [row] from h]
      exact List.mem_singleton_self row

theorem Keeps.unique (h : keep.Keeps rows row) (h' : keep.Keeps rows row') : row = row' := by
  cases keep with
  | first => exact Option.some.inj (h.symm.trans h')
  | last => exact Option.some.inj (h.symm.trans h')
  | none => exact List.singleton_injective (h.symm.trans h')

theorem countP_le_row {before after : List Nat}
    (hasc : (before ++ row :: after).Pairwise (· < ·)) :
    (before ++ row :: after).countP (· ≤ row) = before.length + 1 := by
  obtain ⟨_, hafter, hbefore⟩ := List.pairwise_append.mp hasc
  have hall : before.countP (· ≤ row) = before.length :=
    List.countP_eq_length.mpr fun r hr =>
      decide_eq_true (hbefore r hr row List.mem_cons_self).le
  have hnone : after.countP (· ≤ row) = 0 :=
    List.countP_eq_zero.mpr fun r hr => by simpa using (List.pairwise_cons.mp hafter).1 r hr
  rw [List.countP_append, List.countP_cons, hall, hnone]
  simp

/-- Counting the rows of a key up to one of them tells whether it is kept. -/
theorem keeps_iff (hasc : rows.Pairwise (· < ·)) (hrow : row ∈ rows) :
    keep.keeps (rows.countP (· ≤ row)) rows.length = true ↔ keep.Keeps rows row := by
  obtain ⟨before, after, rfl⟩ := List.append_of_mem hrow
  obtain ⟨_, hafter, hbefore⟩ := List.pairwise_append.mp hasc
  have hless : ∀ r ∈ before, r < row := fun r hr => hbefore r hr row List.mem_cons_self
  have hmore : ∀ r ∈ after, row < r := (List.pairwise_cons.mp hafter).1
  rw [countP_le_row hasc, List.length_append, List.length_cons]
  cases keep with
  | first =>
      show (before.length + 1 == 1) = true ↔ (before ++ row :: after).head? = some row
      cases before with
      | nil => simp
      | cons b before => simpa using (hless b List.mem_cons_self).ne
  | last =>
      show (before.length + 1 == before.length + (after.length + 1)) = true ↔
        (before ++ row :: after).getLast? = some row
      cases after using List.reverseRecOn with
      | nil => simp
      | append_singleton after a =>
          have ha := hmore a (List.mem_append_right after (List.mem_singleton_self a))
          have hend : before ++ row :: (after ++ [a]) = (before ++ row :: after) ++ [a] := by simp
          rw [hend, List.getLast?_concat, Option.some.injEq, List.length_append]
          simpa using ha.ne'
  | none =>
      show (before.length + (after.length + 1) == 1) = true ↔ before ++ row :: after = [row]
      cases before with
      | nil => simp
      | cons b before =>
          simp only [List.length_cons, List.cons_append, List.cons.injEq, List.append_eq_nil_iff,
            reduceCtorEq, and_false, iff_false, beq_iff_eq]
          omega

section

variable {α : Type} [DecidableEq α] {all : List α}

theorem length_markFrom (seen keys : List α) :
    (keep.markFrom all seen keys).length = keys.length := by
  induction keys generalizing seen with
  | nil => rfl
  | cons k rest ih => exact congrArg Nat.succ (ih (k :: seen))

theorem length_mark (keys : List α) : (keep.mark keys).length = keys.length :=
  length_markFrom [] keys

theorem getElem?_markFrom (seen keys : List α) (i : Nat) :
    (keep.markFrom all seen keys)[i]? = keys[i]?.map fun k =>
      keep.keeps (seen.count k + (keys.take (i + 1)).count k) (all.count k) := by
  induction keys generalizing seen i with
  | nil => rfl
  | cons k rest ih =>
      cases i with
      | zero => simp [markFrom]
      | succ i =>
          rw [markFrom, List.getElem?_cons_succ, ih, List.getElem?_cons_succ]
          refine Option.map_congr fun other _ => ?_
          rw [List.take_succ_cons, List.count_cons, List.count_cons]
          congr 1
          omega

/-- What marks an entry is how often it has occurred and how often it does. -/
theorem getElem?_mark (keys : List α) (i : Nat) :
    (keep.mark keys)[i]? = keys[i]?.map fun k =>
      keep.keeps ((keys.take (i + 1)).count k) (keys.count k) := by
  rw [mark, getElem?_markFrom]
  simp

theorem mark_of_nodup {keys : List α} (h : keys.Nodup) :
    keep.mark keys = List.replicate keys.length true := by
  refine List.ext_getElem? fun i => ?_
  rw [getElem?_mark, List.getElem?_replicate]
  split
  · next hi =>
      have hmem : keys[i] ∈ keys.take (i + 1) := by
        rw [List.take_succ_eq_append_getElem hi]
        exact List.mem_append_right _ (List.mem_singleton_self _)
      rw [List.getElem?_eq_getElem hi, Option.map_some,
        List.count_eq_one_of_mem (h.sublist (List.take_sublist _ _)) hmem,
        List.count_eq_one_of_mem h (List.getElem_mem hi)]
      cases keep <;> rfl
  · next hi => rw [List.getElem?_eq_none (Nat.le_of_not_lt hi), Option.map_none]

end

end Keep

/-! ## The rows that are kept -/

/-- The rows that are kept of rows with these keys. -/
def keptRows (keep : Keep) (keyOf : Nat → List Cell) (n : Nat) : List Nat :=
  marked (keep.mark ((List.range n).map fun row => (keyOf row).map Cell.fingerprint))
    (List.range n)

theorem marked_replicate {α : Type} {xs : List α} {n : Nat} (h : xs.length = n) :
    marked (List.replicate n true) xs = xs := by
  have hall := marked_prefix (Nat.le_refl xs.length)
  rwa [Nat.sub_self, List.replicate_zero, List.append_nil, List.take_length, h] at hall

theorem mem_marked_range {mask : List Bool} {n row : Nat} (h : mask.length = n) :
    row ∈ marked mask (List.range n) ↔ mask[row]? = some true := by
  have hzip : (List.range n).zip mask = mask.zipIdx.map Prod.swap := by
    refine List.ext_getElem (by simp [h]) fun i _ _ => ?_
    simp
  rw [marked, hzip, List.filterMap_map, List.mem_filterMap]
  constructor
  · rintro ⟨⟨keep, i⟩, hentry, hkept⟩
    rw [List.mem_zipIdx_iff_getElem?] at hentry
    cases keep with
    | true =>
        cases hkept
        exact hentry
    | false => cases hkept
  · intro hrow
    exact ⟨(true, row), List.mem_zipIdx_iff_getElem?.mpr hrow, rfl⟩

theorem filter_le_range {n row : Nat} (h : row < n) :
    (List.range n).filter (· ≤ row) = List.range (row + 1) := by
  obtain ⟨m, rfl⟩ := Nat.exists_eq_add_of_le (Nat.succ_le_of_lt h)
  have hfront : ∀ r ∈ List.range (row + 1), decide (r ≤ row) = true := fun r hr =>
    decide_eq_true (Nat.le_of_lt_succ (List.mem_range.mp hr))
  have hback : ∀ r ∈ (List.range m).map (row + 1 + ·), ¬decide (r ≤ row) = true := by
    intro r hr
    obtain ⟨i, _, rfl⟩ := List.mem_map.mp hr
    simp only [decide_eq_true_eq]
    omega
  rw [List.range_add, List.filter_append, List.filter_eq_self.mpr hfront,
    List.filter_eq_nil_iff.mpr hback, List.append_nil]

theorem count_map_eq {α : Type} [DecidableEq α] {f : Nat → α} {row : Nat} {p : Nat → Bool}
    (h : ∀ r, f r = f row ↔ p r = true) (rows : List Nat) :
    (rows.map f).count (f row) = rows.countP p := by
  rw [List.count, List.countP_map]
  refine List.countP_congr fun r _ => ?_
  rw [Function.comp_apply, beq_iff_eq, h]

section

variable {keep : Keep} {keyOf : Nat → List Cell} {n : Nat} {groups : Groups}

theorem keptRows_ascending : (keptRows keep keyOf n).Pairwise (· < ·) :=
  List.pairwise_lt_range.sublist (marked_sublist _ _)

theorem lt_of_mem_keptRows {row : Nat} (h : row ∈ keptRows keep keyOf n) : row < n :=
  List.mem_range.mp ((marked_sublist _ _).mem h)

/-- A row is kept exactly if it has the place in its group that is asked for. -/
theorem mem_keptRows_iff (h : groups.Split keyOf (List.range n)) {row : Nat} (hrow : row < n)
    {g : List Cell × List Nat} (hg : g ∈ groups) (hsame : sameKey (keyOf row) g.1 = true) :
    row ∈ keptRows keep keyOf n ↔ keep.Keeps g.2 row := by
  have hmembers := h.members g hg
  have hmem : row ∈ g.2 := by
    rw [hmembers]
    exact List.mem_filter.mpr ⟨List.mem_range.mpr hrow, hsame⟩
  have hkey : ∀ r, (keyOf r).map Cell.fingerprint = (keyOf row).map Cell.fingerprint ↔
      sameKey (keyOf r) g.1 = true := by
    intro r
    rw [Cell.fingerprints_eq_iff, sameKey_comm, sameKey_congr hsame, sameKey_comm]
  have htotal : (List.range n).countP (fun r => sameKey (keyOf r) g.1) = g.2.length := by
    rw [hmembers, List.countP_eq_length_filter]
  have hnth : (List.range (row + 1)).countP (fun r => sameKey (keyOf r) g.1) =
      g.2.countP (· ≤ row) := by
    rw [hmembers, ← filter_le_range hrow, List.countP_filter, List.countP_filter]
    exact List.countP_congr fun r _ => by rw [Bool.and_comm]
  rw [← Keep.keeps_iff (h.rows_ascending hg) hmem, ← hnth, ← htotal, keptRows,
    mem_marked_range (by rw [Keep.length_mark, List.length_map, List.length_range]),
    Keep.getElem?_mark, ← List.map_take, List.take_range, Nat.min_eq_left hrow,
    List.getElem?_map, List.getElem?_range hrow, Option.map_some, Option.map_some,
    Option.some.injEq, count_map_eq hkey, count_map_eq hkey]

theorem mem_keptRows (h : groups.Split keyOf (List.range n)) {row : Nat} :
    row ∈ keptRows keep keyOf n ↔ ∃ g ∈ groups, keep.Keeps g.2 row := by
  constructor
  · intro hrow
    have hlt := lt_of_mem_keptRows hrow
    obtain ⟨g, hg, hsame⟩ := h.covers row (List.mem_range.mpr hlt)
    exact ⟨g, hg, (mem_keptRows_iff h hlt hg hsame).mp hrow⟩
  · rintro ⟨g, hg, hkeeps⟩
    have hmem := hkeeps.mem
    rw [h.members g hg] at hmem
    obtain ⟨hlt, hsame⟩ := List.mem_filter.mp hmem
    exact (mem_keptRows_iff h (List.mem_range.mp hlt) hg hsame).mpr hkeeps

/-- Rows that are kept have different keys. -/
theorem nodup_keptRows (h : groups.Split keyOf (List.range n)) :
    ((keptRows keep keyOf n).map fun row => (keyOf row).map Cell.fingerprint).Nodup := by
  refine List.Nodup.map_on ?_ (keptRows_ascending.imp Nat.ne_of_lt)
  intro row hrow row' hrow' hkeys
  have hlt := lt_of_mem_keptRows hrow
  obtain ⟨g, hg, hsame⟩ := h.covers row (List.mem_range.mpr hlt)
  have hsame' : sameKey (keyOf row') g.1 = true := by
    rw [← hsame, sameKey_congr (Cell.fingerprints_eq_iff.mp hkeys)]
  have hkeeps := (mem_keptRows_iff h hlt hg hsame).mp hrow
  have hkeeps' := (mem_keptRows_iff h (lt_of_mem_keptRows hrow') hg hsame').mp hrow'
  exact hkeeps.unique hkeeps'

end

namespace Table

variable {t : Table} {columns : List Column}

theorem columnsOf_names (wf : t.WellFormed) :
    t.columnsOf t.names = .ok (t.columns.map Prod.snd) := by
  rw [columnsOf, names, List.mapM_map]
  exact mapM_eq_map fun c hc => column_eq_ok.mpr (find?_of_mem wf.names_nodup hc)

theorem dropDuplicates_eq (wf : t.WellFormed) (names : Option (List String)) (keep : Keep) :
    t.dropDuplicates names keep = (t.rowKeys (names.getD t.names)).bind fun keys =>
      t.filter (keep.mark (keys.map fun key => key.map Cell.fingerprint)) := by
  cases names with
  | some names =>
      rw [dropDuplicates, rowKeys, Option.getD_some]
      cases t.columnsOf names <;> rfl
  | none =>
      rw [rowKeys, Option.getD_none, columnsOf_names wf]
      rfl

theorem dropDuplicates_eq_gather (wf : t.WellFormed) {names : Option (List String)}
    (h : t.columnsOf (names.getD t.names) = .ok columns) (keep : Keep) :
    t.dropDuplicates names keep = .ok (t.gather (keptRows keep (keyAt columns) t.rows)) := by
  have hmask : (keep.mark ((List.range t.rows).map fun row =>
      (keyAt columns row).map Cell.fingerprint)).length = t.rows := by
    rw [Keep.length_mark, List.length_map, List.length_range]
  rw [dropDuplicates_eq wf, rowKeys, h, keptRows, ← reshape_marked wf.lengths,
    ← filter_eq hmask]
  show t.filter _ = _
  rw [keyRows_eq_map, List.map_map]
  rfl

/-- The rows that are kept are all kept again. -/
theorem dropDuplicates_again (wf : t.WellFormed) {names : Option (List String)}
    (h : t.columnsOf (names.getD t.names) = .ok columns) {kept : List Nat}
    (hbounds : ∀ i ∈ kept, i < t.rows)
    (hnodup : (kept.map fun row => (keyAt columns row).map Cell.fingerprint).Nodup) (keep : Keep) :
    (t.gather kept).dropDuplicates names keep = .ok (t.gather kept) := by
  have hmark : keep.mark ((kept.map (keyAt columns)).map fun key => key.map Cell.fingerprint) =
      List.replicate (t.gather kept).rows true := by
    rw [List.map_map, rows_gather hbounds]
    exact (Keep.mark_of_nodup hnodup).trans (by rw [List.length_map])
  rw [dropDuplicates_eq (wf.gather kept), names_gather, rowKeys_gather wf h hbounds]
  show (t.gather kept).filter _ = _
  rw [hmark, filter_eq List.length_replicate, reshape_marked (wf.gather kept).lengths,
    marked_replicate List.length_range, gather_range (wf.gather kept).lengths]

end Table

/-! ## Counting different values -/

section

variable {keyOf : Nat → List Cell} {rows : List Nat} {groups : Groups}

theorem Groups.Split.nodup_fingerprints (h : groups.Split keyOf rows) :
    (groups.map fun g => g.1.map Cell.fingerprint).Nodup := by
  refine List.pairwise_map.mpr ((List.pairwise_map.mp h.ascending).imp ?_)
  intro g g' hless hsame
  rw [Cell.fingerprints_eq_iff, not_sameKey_of_lt hless] at hsame
  cases hsame

theorem Groups.Split.mem_fingerprints (h : groups.Split keyOf rows) {key : List Cell.Fingerprint} :
    key ∈ (groups.map fun g => g.1.map Cell.fingerprint) ↔
      ∃ row ∈ rows, (keyOf row).map Cell.fingerprint = key := by
  rw [List.mem_map]
  constructor
  · rintro ⟨g, hg, rfl⟩
    obtain ⟨row, hhead, hrow⟩ := Option.map_eq_some_iff.mp (h.first g hg)
    have hmem := List.mem_of_head? hhead
    rw [h.members g hg] at hmem
    exact ⟨row, (List.mem_filter.mp hmem).1, congrArg _ hrow⟩
  · rintro ⟨row, hrow, rfl⟩
    obtain ⟨g, hg, hsame⟩ := h.covers row hrow
    exact ⟨g, hg, (Cell.fingerprints_eq_iff.mpr hsame).symm⟩

/-- A column has as many different values as it makes groups. -/
theorem Groups.Split.distinctCount_eq {c : Column} {n : Nat} (hc : c.length = n)
    (h : groups.Split (keyAt [c]) (List.range n)) :
    Cell.distinctCount c.cells = groups.length := by
  have hkey : ∀ row (hrow : row < c.cells.length), keyAt [c] row = [c.cells[row]] := by
    intro row hrow
    rw [keyAt, List.filterMap_cons, Column.get?, List.getElem?_eq_getElem hrow]
    rfl
  have hperm : ((c.cells.map Cell.fingerprint).eraseDups.map fun f => [f]).Perm
      (groups.map fun g => g.1.map Cell.fingerprint) := by
    refine (List.perm_ext_iff_of_nodup ?_ h.nodup_fingerprints).mpr fun key => ?_
    · exact (nodup_eraseDups _).map List.singleton_injective
    · rw [h.mem_fingerprints, List.mem_map]
      constructor
      · rintro ⟨_, hmem, rfl⟩
        obtain ⟨v, hv, rfl⟩ := List.mem_map.mp (List.mem_eraseDups.mp hmem)
        obtain ⟨row, hrow, rfl⟩ := List.getElem_of_mem hv
        refine ⟨row, List.mem_range.mpr ?_, by rw [hkey row hrow]; rfl⟩
        rwa [Column.length_cells, hc] at hrow
      · rintro ⟨row, hrow, rfl⟩
        have hlt : row < c.cells.length := by
          rw [Column.length_cells, hc]
          exact List.mem_range.mp hrow
        refine ⟨c.cells[row].fingerprint, ?_, by rw [hkey row hlt]; rfl⟩
        exact List.mem_eraseDups.mpr (List.mem_map_of_mem (List.getElem_mem hlt))
  have hlength := hperm.length_eq
  rwa [List.length_map, List.length_map] at hlength

end

/-- Dropping repeated rows agrees with grouping, whichever columns tell rows apart and
also if none do. Of each group the first row is kept, or the last, or the only one;
kept rows keep their order, values and labels, and dropping repeated rows once more
changes nothing. A column counts as many different values as it makes groups. -/
theorem Table.dropDuplicates_groups {t : Table} (wf : t.WellFormed)
    {names : Option (List String)} (hnames : ∀ name ∈ names.getD t.names, name ∈ t.names) :
    (∃ groups, t.groupRows (names.getD t.names) = .ok groups ∧
      ∀ keep : Keep, ∃ kept, t.dropDuplicates names keep = .ok (t.gather kept) ∧
        kept.Pairwise (· < ·) ∧ (∀ row, row ∈ kept ↔ ∃ group ∈ groups, keep.Keeps group.2 row) ∧
        (t.gather kept).dropDuplicates names keep = .ok (t.gather kept)) ∧
    ∀ name c, t.find? name = some c →
      ∃ groups, t.groupRows [name] = .ok groups ∧
        (Reducer.all.lookup "n_distinct").map (fun f => f [.column c]) =
          some (.ok (.cell (.int (Int64.ofNat groups.length)))) := by
  constructor
  · obtain ⟨columns, hcolumns⟩ := exists_columnsOf hnames
    obtain ⟨groups, hgroups, hsplit⟩ := groupRows_split hcolumns
    refine ⟨groups, hgroups, fun keep => ⟨_, dropDuplicates_eq_gather wf hcolumns keep,
      keptRows_ascending, fun row => mem_keptRows hsplit, ?_⟩⟩
    exact dropDuplicates_again wf hcolumns (fun _ => lt_of_mem_keptRows)
      (nodup_keptRows hsplit) keep
  · intro name c hc
    have hcolumns : t.columnsOf [name] = .ok [c] :=
      mapM_eq_ok.mpr (.cons (column_eq_ok.mpr hc) .nil)
    obtain ⟨groups, hgroups, hsplit⟩ := groupRows_split hcolumns
    refine ⟨groups, hgroups, ?_⟩
    rw [← hsplit.distinctCount_eq (wf.lengths _ (mem_of_find? hc))]
    rfl

/-- Of the two zeros, which are one value, the later is kept. -/
theorem Table.dropDuplicates_groups_zeros :
    ∃ groups,
      Table.groupRows ["k"] ⟨[("k", .floats [-0.0, 0.0 / 0.0, 0.0])], [5, 6, 7]⟩ = .ok groups ∧
      (∃ kept, (∀ row, row ∈ kept ↔ ∃ group ∈ groups, group.2.getLast? = some row) ∧
        Table.gather kept ⟨[("k", .floats [-0.0, 0.0 / 0.0, 0.0])], [5, 6, 7]⟩ =
          ⟨[("k", .floats [0.0 / 0.0, 0.0])], [6, 7]⟩) ∧
      Table.dropDuplicates (some ["k"]) .last ⟨[("k", .floats [0.0 / 0.0, 0.0])], [6, 7]⟩ =
        .ok ⟨[("k", .floats [0.0 / 0.0, 0.0])], [6, 7]⟩ := by
  have wf : Table.WellFormed ⟨[("k", .floats [-0.0, 0.0 / 0.0, 0.0])], [5, 6, 7]⟩ :=
    ⟨by decide, by decide⟩
  have hlast : Table.dropDuplicates (some ["k"]) .last
      ⟨[("k", .floats [-0.0, 0.0 / 0.0, 0.0])], [5, 6, 7]⟩ =
        .ok ⟨[("k", .floats [0.0 / 0.0, 0.0])], [6, 7]⟩ := by decide +kernel
  obtain ⟨⟨groups, hgroups, hkeep⟩, _⟩ :=
    @Table.dropDuplicates_groups _ wf (some ["k"]) (by decide)
  obtain ⟨kept, hkept, _, hrows, hagain⟩ := hkeep .last
  have hgather := Except.ok.inj (hkept.symm.trans hlast)
  rw [hgather] at hagain
  exact ⟨groups, hgroups, ⟨kept, hrows, hgather⟩, hagain⟩

end TableVerbs
