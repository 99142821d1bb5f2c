import TableVerbs.Proofs.GroupedRows
import TableVerbs.Proofs.WellFormedVerbs

/-!
# Cutting groups again

The first or last rows of the first or last rows are the first or last rows, as many
as the smaller number says. On a plain table this is about positions alone. A grouped
one is taken apart and put together each time, and the second time its rows are
grouped as they come out of the first: in the order of their keys, with new labels,
and possibly without some of the groups.

Groups that have lost all of their rows are no groups of the second table, so the
groups of the two are not compared. What is compared is the rows, one group after
another. Which of them a cut keeps can be told from their keys, by counting within
each key, and this takes no notice of a group without rows.
-/

namespace TableVerbs

/-- A way to cut tables down. It keeps the rows at some of the positions, and of rows
that stand group by group it keeps those in each group that the keys tell it to. -/
structure Cuts (f : Table → Table) (cut : List Nat → List Nat)
    (mask : List (List Cell) → List Bool) : Prop where
  sublist : ∀ rows, (cut rows).Sublist rows
  gather : ∀ {t : Table}, t.WellFormed → ∀ {rows : List Nat}, (∀ i ∈ rows, i < t.rows) →
    f (t.gather rows) = t.gather (cut rows)
  marks : ∀ {keyOf : Nat → List Cell} {groups : Groups}, groups.Ascending → groups.Keyed keyOf →
    marked (mask (groups.members.map keyOf)) groups.members = groups.flatMap fun g => cut g.2

theorem cuts_head (n : Nat) :
    Cuts (Table.head n) (List.take n) fun keys => below n (ranksFromStart [] keys) where
  sublist := List.take_sublist n
  gather wf _ hrows := Table.head_gather wf hrows n
  marks hasc hkeyed := Groups.marked_start n hasc hkeyed fun _ _ _ h => by cases h

theorem cuts_tail (n : Nat) :
    Cuts (Table.tail n) (fun rows => rows.drop (rows.length - n)) fun keys =>
      below n (ranksFromEnd keys) where
  sublist rows := List.drop_sublist _ rows
  gather wf _ hrows := Table.tail_gather wf hrows n
  marks hasc hkeyed := Groups.marked_end n hasc hkeyed

/-! ## Groups cut down -/

namespace Groups

/-- The groups with some of their rows each, possibly none. -/
def cutDown (cut : List Nat → List Nat) (groups : Groups) : Groups :=
  groups.map fun g => (g.1, cut g.2)

variable {cut : List Nat → List Nat} {groups : Groups} {keyOf : Nat → List Cell}

theorem Ascending.cutDown (h : groups.Ascending) : (groups.cutDown cut).Ascending := by
  rw [Ascending, Groups.cutDown, List.map_map]
  exact h

theorem Keyed.cutDown (h : groups.Keyed keyOf) (hcut : ∀ rows, cut rows ⊆ rows) :
    (groups.cutDown cut).Keyed keyOf := by
  intro _ hg row hrow
  obtain ⟨g, hmem, rfl⟩ := List.mem_map.mp hg
  exact h g hmem row (hcut g.2 hrow)

theorem members_cutDown : (groups.cutDown cut).members = groups.flatMap fun g => cut g.2 := by
  rw [members, Groups.cutDown, List.flatMap_map]

theorem cutDown_sublist (hcut : ∀ rows, (cut rows).Sublist rows) :
    (groups.flatMap fun g => cut g.2).Sublist groups.members := by
  induction groups with
  | nil => exact List.Sublist.refl _
  | cons g rest ih =>
      rw [List.flatMap_cons, members_cons]
      exact (hcut g.2).append ih

end Groups

namespace Cuts

variable {f : Table → Table} {cut cut' : List Nat → List Nat}
  {mask : List (List Cell) → List Bool}

theorem subset (h : Cuts f cut mask) (rows : List Nat) : cut rows ⊆ rows := (h.sublist rows).subset

/-- Cutting a table that is not taken apart. -/
theorem apply_eq (h : Cuts f cut mask) {t : Table} (wf : t.WellFormed) :
    f t = t.gather (cut (List.range t.rows)) := by
  have hgather : f (t.gather (List.range t.rows)) = t.gather (cut (List.range t.rows)) :=
    h.gather wf fun _ hi => List.mem_range.mp hi
  rwa [Table.gather_range wf.lengths] at hgather

/-- Of rows that a first cut has left, the keys tell what a second one leaves. -/
theorem marks_again (h : Cuts f cut mask) (h' : ∀ rows, cut' rows ⊆ rows)
    {keyOf : Nat → List Cell} {groups : Groups} (hasc : groups.Ascending)
    (hkeyed : groups.Keyed keyOf) :
    marked (mask ((groups.flatMap fun g => cut' g.2).map keyOf))
        (groups.flatMap fun g => cut' g.2) =
      groups.flatMap fun g => cut (cut' g.2) := by
  have hasc' : (groups.cutDown cut').Ascending := hasc.cutDown
  have hmarks := h.marks hasc' (hkeyed.cutDown h')
  rw [Groups.members_cutDown] at hmarks
  rw [hmarks, Groups.cutDown, List.flatMap_map]

end Cuts

/-- New labels are not seen where labels are new again. -/
theorem Table.relabelled_gather (t : Table) (positions : List Nat) :
    (t.relabelled.gather positions).relabelled = (t.gather positions).relabelled := by
  have hrows : (t.relabelled.gather positions).rows = (t.gather positions).rows :=
    length_pick_congr List.length_range positions
  exact eq_of_parts rfl (congrArg List.range hrows)

namespace Grouped

variable {g : Grouped} {groups : Groups} {columns : List Column} {f : Table → Table}
  {cut : List Nat → List Nat} {mask : List (List Cell) → List Bool}

/-- Cutting the groups of picked rows that are in the order of their keys. -/
theorem perGroup_picked (h : Cuts f cut mask) (wf : g.WellFormed)
    (hcolumns : g.table.columnsOf g.keys = .ok columns) {positions : List Nat}
    (hbounds : ∀ i ∈ positions, i < g.table.rows)
    (hordered : positions.Pairwise (Precedes (keyAt columns))) (schedule : Schedule) :
    (Dataset.grouped ⟨(g.table.gather positions).relabelled, g.keys⟩).perGroup schedule f =
      .ok (.grouped ⟨(g.table.gather
        (marked (mask (positions.map (keyAt columns))) positions)).relabelled, g.keys⟩) := by
  have hlengths := Table.columnsOf_length wf.table hcolumns
  have hrows : (g.table.gather positions).relabelled.rows = positions.length := by
    rw [Table.relabelled, Table.rows, List.length_range, Table.rows_gather hbounds]
  rcases Nat.eq_zero_or_pos positions.length with hnone | hpositive
  · -- nothing is done to a table without rows
    rw [Dataset.perGroup, if_pos (hrows.trans hnone), List.length_eq_zero_iff.mp hnone, marked,
      List.zip_nil_left, List.filterMap_nil]
  have hcolumns' : (g.table.gather positions).relabelled.columnsOf g.keys =
      .ok (columns.map fun c => c.take positions) := Table.columnsOf_gather hcolumns positions
  have hkeys : ∀ i (hi : i < positions.length),
      keyAt (columns.map fun c => c.take positions) i = keyAt columns positions[i] :=
    fun i hi => Table.keyAt_take hlengths hbounds hi
  have wf' : Grouped.WellFormed ⟨(g.table.gather positions).relabelled, g.keys⟩ :=
    ⟨(wf.table.gather positions).relabelled, wf.keys_ne_nil, wf.keys_nodup, fun k hk => by
      show k ∈ (g.table.gather positions).names
      rw [Table.names_gather]
      exact wf.keys_mem k hk⟩
  obtain ⟨groups, hgroups, hsplit⟩ := Table.groupRows_split hcolumns'
  rw [hrows] at hsplit
  -- the rows come out in order, so the groups are read off from front to back
  have hmembers : groups.members = List.range positions.length :=
    hsplit.members_sorts.unique (Sorts.of_pairwise hordered hkeys)
  have hgroupsNe : groups ≠ [] := hsplit.groups_ne_nil (by
    rw [ne_eq, List.range_eq_nil]
    omega)
  have hcut := perGroup_gather wf' (hrows.symm ▸ hpositive) hgroups hgroupsNe h.subset
    (fun rows hin => h.gather wf'.table hin) schedule
  have hkept : (groups.flatMap fun g => cut g.2) =
      marked (mask (positions.map (keyAt columns))) (List.range positions.length) := by
    have hmap : (List.range positions.length).map (keyAt (columns.map fun c => c.take positions)) =
        positions.map (keyAt columns) :=
      List.ext_getElem (by simp) fun i hi _ => by
        rw [List.length_map, List.length_range] at hi
        rw [List.getElem_map, List.getElem_range, List.getElem_map, hkeys i hi]
    rw [← h.marks hsplit.ascending hsplit.keyed, hmembers, hmap]
  rw [hcut, hkept, Table.relabelled_gather, Table.gather_gather wf.table.lengths hbounds,
    ← marked_eq_pick rfl]

end Grouped

namespace Dataset

variable {d : Dataset} {f₁ f₂ f : Table → Table} {cut₁ cut₂ cut : List Nat → List Nat}
  {mask₁ mask₂ mask : List (List Cell) → List Bool}

/-- Two cuts of the groups, one after the other, are one. -/
theorem perGroup_perGroup (h₁ : Cuts f₁ cut₁ mask₁) (h₂ : Cuts f₂ cut₂ mask₂) (h : Cuts f cut mask)
    (hcut : ∀ rows, cut₂ (cut₁ rows) = cut rows) (hd : d.WellFormed) (schedule : Schedule) :
    ∃ once twice, d.perGroup schedule f₁ = .ok once ∧ once.perGroup schedule f₂ = .ok twice ∧
      d.perGroup schedule f = .ok twice := by
  cases d with
  | plain t =>
      have wf : t.WellFormed := hd
      have hbounds : ∀ i ∈ cut₁ (List.range t.rows), i < t.rows :=
        fun i hi => List.mem_range.mp (h₁.subset _ hi)
      refine ⟨_, _, rfl, rfl, ?_⟩
      rw [h₁.apply_eq wf, h₂.gather wf hbounds, hcut, ← h.apply_eq wf]
      rfl
  | grouped g =>
      have wf : g.WellFormed := hd
      rcases Nat.eq_zero_or_pos g.table.rows with hnone | hrows
      · have hsame : ∀ f, (Dataset.grouped g).perGroup schedule f = .ok (.grouped g) := by
          intro f
          rw [perGroup, if_pos hnone]
        exact ⟨_, _, hsame f₁, hsame f₂, hsame f⟩
      · obtain ⟨columns, hcolumns⟩ := Table.exists_columnsOf wf.keys_mem
        obtain ⟨groups, hgroups, hsplit⟩ := Table.groupRows_split hcolumns
        have hne : groups ≠ [] := hsplit.groups_ne_nil (by
          rw [ne_eq, List.range_eq_nil]
          omega)
        have hasc := hsplit.ascending
        have hordered : (groups.flatMap fun g => cut₁ g.2).Pairwise (Precedes (keyAt columns)) :=
          hsplit.pairwise_members.sublist (Groups.cutDown_sublist h₁.sublist)
        have hbounds : ∀ i ∈ groups.flatMap fun g => cut₁ g.2, i < g.table.rows := by
          intro i hi
          have hmem := (Groups.cutDown_sublist h₁.sublist).subset hi
          exact List.mem_range.mp (hsplit.mem_members.mp hmem)
        have hfirst := Grouped.perGroup_gather wf hrows hgroups hne h₁.subset
          (fun rows hin => h₁.gather wf.table hin) schedule
        have hsecond := Grouped.perGroup_picked h₂ wf hcolumns hbounds hordered schedule
        have hboth := Grouped.perGroup_gather wf hrows hgroups hne h.subset
          (fun rows hin => h.gather wf.table hin) schedule
        rw [h₂.marks_again h₁.subset hasc hsplit.keyed] at hsecond
        simp only [hcut] at hsecond
        exact ⟨_, _, hfirst, hsecond, hboth⟩

end Dataset

/-! ## Heads and tails -/

theorem drop_drop_end {α : Type} (m n : Nat) (xs : List α) :
    (xs.drop (xs.length - n)).drop ((xs.drop (xs.length - n)).length - m) =
      xs.drop (xs.length - min m n) := by
  rw [List.drop_drop, List.length_drop]
  congr 1
  omega

/-- Heads compose, and so do tails: the first rows of the first rows are as many of the
first rows as the smaller number says, in every group of a grouped dataset, with values,
labels, types and keys. A head and the tail of all other rows share out a plain table. -/
theorem Session.cuts_compose (s : Session) (defaults : Options) {d : Dataset}
    (hd : d.WellFormed) :
    (∀ m n, ∃ once twice, (s.apply defaults d (.head n)).outcome = .ok (.data once) ∧
      (s.apply defaults once (.head m)).outcome = .ok (.data twice) ∧
      (s.apply defaults d (.head (min m n))).outcome = .ok (.data twice)) ∧
    (∀ m n, ∃ once twice, (s.apply defaults d (.tail n)).outcome = .ok (.data once) ∧
      (s.apply defaults once (.tail m)).outcome = .ok (.data twice) ∧
      (s.apply defaults d (.tail (min m n))).outcome = .ok (.data twice)) ∧
    ∀ t, d = .plain t → ∀ n ≤ t.rows,
      (s.apply defaults d (.head n)).outcome =
        .ok (.data (.plain (t.reshape fun xs => xs.take n))) ∧
      (s.apply defaults d (.tail (t.rows - n))).outcome =
        .ok (.data (.plain (t.reshape fun xs => xs.drop n))) := by
  refine ⟨fun m n => ?_, fun m n => ?_, ?_⟩
  · obtain ⟨once, twice, hfirst, hsecond, hboth⟩ :=
      Dataset.perGroup_perGroup (cuts_head n) (cuts_head m) (cuts_head (min m n))
        (fun rows => List.take_take) hd (s.scheduleUnder defaults)
    exact ⟨once, twice, congrArg (Except.map Output.data) hfirst,
      congrArg (Except.map Output.data) hsecond, congrArg (Except.map Output.data) hboth⟩
  · obtain ⟨once, twice, hfirst, hsecond, hboth⟩ :=
      Dataset.perGroup_perGroup (cuts_tail n) (cuts_tail m) (cuts_tail (min m n))
        (fun rows => drop_drop_end m n rows) hd (s.scheduleUnder defaults)
    exact ⟨once, twice, congrArg (Except.map Output.data) hfirst,
      congrArg (Except.map Output.data) hsecond, congrArg (Except.map Output.data) hboth⟩
  · rintro t rfl n hn
    have hlen : t.Rectangular := Table.WellFormed.lengths hd
    have hhead := t.head_eq hlen n
    have htail := t.tail_eq hlen (t.rows - n)
    rw [Nat.sub_sub_self hn] at htail
    rw [← hhead, ← htail]
    exact ⟨rfl, rfl⟩

/-- The last row of the last two of every group. The groups come out in the order of
their keys, which is not the order in which the table has them. -/
theorem Session.cuts_compose_grouped :
    ∃ once twice,
      (Session.apply ⟨none, Scope.empty, Draws.first⟩ Options.standard
        (.grouped ⟨⟨[("k", .strs ["b", "a", "b", "b"]), ("v", .ints [1, 2, 3, 4])],
          [7, 6, 5, 4]⟩, ["k"]⟩) (.tail 2)).outcome = .ok (.data once) ∧
      (Session.apply ⟨none, Scope.empty, Draws.first⟩ Options.standard once
        (.tail 1)).outcome = .ok (.data twice) ∧
      (Session.apply ⟨none, Scope.empty, Draws.first⟩ Options.standard
        (.grouped ⟨⟨[("k", .strs ["b", "a", "b", "b"]), ("v", .ints [1, 2, 3, 4])],
          [7, 6, 5, 4]⟩, ["k"]⟩) (.tail 1)).outcome = .ok (.data twice) := by
  have hd : Dataset.WellFormed
      (.grouped ⟨⟨[("k", .strs ["b", "a", "b", "b"]), ("v", .ints [1, 2, 3, 4])],
        [7, 6, 5, 4]⟩, ["k"]⟩) :=
    ⟨⟨by decide, by decide⟩, by decide, by decide, by decide⟩
  exact (Session.cuts_compose ⟨none, Scope.empty, Draws.first⟩ Options.standard hd).2.1 1 2

end TableVerbs
