import TableVerbs.Proofs.CellOrder
import TableVerbs.Proofs.Positions

/-!
# What grouping finds

Rows are put into groups one at a time: a row joins the group of its key, or
starts a new group at the place that its key has among the others. `Split` says
what has been reached after some rows. The keys of the groups ascend, a group
has exactly the rows of its key, in the order in which they came, its key is
that of the first of them, and no row is without a group.

Equal keys are equal in the order of cells and not always the same cells, since
the two zeros are equal. This is why a group's key is said to be the first row's
and not simply the key of its rows.
-/

namespace TableVerbs

/-- The key tuple of a row in some columns. -/
def keyAt (columns : List Column) (row : Nat) : List Cell :=
  columns.filterMap fun c => c.get? row

theorem keyRows_eq_map (rows : Nat) (columns : List Column) :
    keyRows rows columns = (List.range rows).map (keyAt columns) := by
  simp only [keyRows, List.filterMap_map]
  rfl

theorem zipIdx_keyRows (rows : Nat) (columns : List Column) :
    (keyRows rows columns).zipIdx = (List.range rows).map fun row => (keyAt columns row, row) := by
  rw [keyRows_eq_map]
  refine List.ext_getElem (by simp) fun i hi _ => ?_
  simp

/-- Whether two key tuples are equal in their order. -/
def sameKey (a b : List Cell) : Bool := Cell.orderKeys a b == .eq

section

variable {a b c : List Cell}

theorem sameKey_iff : sameKey a b = true ↔ Cell.orderKeys a b = .eq := beq_iff_eq

theorem sameKey_comm : sameKey a b = sameKey b a := by
  rw [Bool.eq_iff_iff, sameKey_iff, sameKey_iff]
  exact Std.OrientedCmp.eq_comm

theorem sameKey_congr (h : sameKey a b = true) : sameKey a c = sameKey b c := by
  rw [sameKey, sameKey, Std.TransCmp.congr_left (sameKey_iff.mp h)]

theorem not_sameKey_of_lt (h : Cell.orderKeys a b = .lt) : sameKey a b = false := by
  rw [sameKey, h]
  rfl

theorem not_sameKey_of_gt (h : Cell.orderKeys a b = .lt) : sameKey b a = false := by
  rw [sameKey_comm]
  exact not_sameKey_of_lt h

end

namespace Groups

/-- Keys in ascending order, none of them twice. -/
def Ascending (groups : Groups) : Prop :=
  (groups.map Prod.fst).Pairwise fun a b => Cell.orderKeys a b = .lt

theorem ascending_cons {g : List Cell × List Nat} {rest : Groups} :
    Ascending (g :: rest) ↔
      (∀ h ∈ rest, Cell.orderKeys g.1 h.1 = .lt) ∧ Ascending rest := by
  rw [Ascending, List.map_cons, List.pairwise_cons, List.forall_mem_map]
  rfl

/-- The place of a key among groups: the group that has it, or, with no rows so
far, the one that would be put there. -/
structure Place (groups : Groups) (key : List Cell) (before : Groups) (k : List Cell)
    (old : List Nat) (after : Groups) : Prop where
  ascending : Ascending (before ++ (k, old) :: after)
  same : sameKey key k = true
  groups_eq : groups = before ++ (k, old) :: after ∨ groups = before ++ after ∧ k = key ∧ old = []

/-- A row that is added comes last in the group at the place of its key. -/
theorem exists_place {groups : Groups} (hasc : groups.Ascending) (key : List Cell) (row : Nat) :
    ∃ before k old after, groups.Place key before k old after ∧
      groups.add key row = before ++ (k, old ++ [row]) :: after := by
  have hself : sameKey key key = true := sameKey_iff.mpr Std.ReflCmp.compare_self
  induction groups with
  | nil =>
      refine ⟨[], key, [], [], ⟨?_, hself, .inr ⟨rfl, rfl, rfl⟩⟩, rfl⟩
      exact ascending_cons.mpr ⟨fun _ h => (by cases h), hasc⟩
  | cons g rest ih =>
      obtain ⟨k, rows⟩ := g
      obtain ⟨hk, hrest⟩ := ascending_cons.mp hasc
      cases hkey : Cell.orderKeys key k with
      | lt =>
          refine ⟨[], key, [], (k, rows) :: rest, ⟨?_, hself, .inr ⟨rfl, rfl, rfl⟩⟩, ?_⟩
          · refine ascending_cons.mpr ⟨List.forall_mem_cons.mpr ⟨hkey, fun h hh => ?_⟩, hasc⟩
            exact Std.TransCmp.lt_trans hkey (hk h hh)
          · rw [add, hkey]
            rfl
      | eq =>
          refine ⟨[], k, rows, rest, ⟨hasc, sameKey_iff.mpr hkey, .inl rfl⟩, ?_⟩
          rw [add, hkey]
          rfl
      | gt =>
          obtain ⟨before, k', old, after, ⟨hasc', hsame, hgroups⟩, hadd⟩ := ih hrest
          -- also a new key, which comes somewhere behind, is greater than this one
          have hless : ∀ h ∈ before ++ (k', old) :: after, Cell.orderKeys k h.1 = .lt := by
            rcases hgroups with rfl | ⟨rfl, rfl, rfl⟩
            · exact hk
            · intro h hh
              rcases List.mem_append.mp hh with hh | hh
              · exact hk h (List.mem_append_left _ hh)
              · rcases List.mem_cons.mp hh with rfl | hh
                · exact Std.OrientedCmp.lt_of_gt hkey
                · exact hk h (List.mem_append_right _ hh)
          refine ⟨(k, rows) :: before, k', old, after, ⟨?_, hsame, ?_⟩, ?_⟩
          · exact ascending_cons.mpr ⟨hless, hasc'⟩
          · refine hgroups.imp ?_ ?_
            · rintro rfl
              rfl
            · rintro ⟨rfl, hnew⟩
              exact ⟨rfl, hnew⟩
          · rw [add, hkey, List.cons_append]
            exact congrArg _ hadd

section

variable {groups before after : Groups} {key k : List Cell} {old : List Nat}

theorem Place.mem_of_other (h : groups.Place key before k old after) {g : List Cell × List Nat}
    (hg : g ∈ before ++ after) : g ∈ groups := by
  rcases h.groups_eq with rfl | ⟨rfl, _⟩
  · simp only [List.mem_append, List.mem_cons] at hg ⊢
    tauto
  · exact hg

theorem Place.apart (h : groups.Place key before k old after) {g : List Cell × List Nat}
    (hg : g ∈ before ++ after) : sameKey key g.1 = false := by
  have hasc := h.ascending
  rw [Ascending, List.map_append, List.map_cons, List.pairwise_append,
    List.pairwise_cons] at hasc
  obtain ⟨_, ⟨hafter, _⟩, hbefore⟩ := hasc
  rw [sameKey_congr h.same]
  rcases List.mem_append.mp hg with hg | hg
  · exact not_sameKey_of_gt (hbefore g.1 (List.mem_map_of_mem hg) k List.mem_cons_self)
  · exact not_sameKey_of_lt (hafter g.1 (List.mem_map_of_mem hg))

theorem mem_place {g group : List Cell × List Nat} :
    g ∈ before ++ group :: after ↔ g ∈ before ++ after ∨ g = group := by
  simp only [List.mem_append, List.mem_cons]
  tauto

end

/-- Some rows, split by their keys. -/
structure Split (keyOf : Nat → List Cell) (rows : List Nat) (groups : Groups) : Prop where
  ascending : groups.Ascending
  members : ∀ g ∈ groups, g.2 = rows.filter fun row => sameKey (keyOf row) g.1
  first : ∀ g ∈ groups, g.2.head?.map keyOf = some g.1
  covers : ∀ row ∈ rows, ∃ g ∈ groups, sameKey (keyOf row) g.1 = true

section

variable {keyOf : Nat → List Cell} {rows : List Nat} {groups : Groups}

theorem split_nil : Split keyOf [] [] where
  ascending := List.Pairwise.nil
  members := fun _ h => by cases h
  first := fun _ h => by cases h
  covers := fun _ h => by cases h

theorem Split.groups_ne_nil (h : groups.Split keyOf rows) (hrows : rows ≠ []) : groups ≠ [] := by
  obtain ⟨row, hrow⟩ := List.exists_mem_of_ne_nil rows hrows
  obtain ⟨g, hg, _⟩ := h.covers row hrow
  exact List.ne_nil_of_mem hg

theorem Split.ne_nil (h : groups.Split keyOf rows) {g : List Cell × List Nat} (hg : g ∈ groups) :
    g.2 ≠ [] := by
  intro hnil
  have hfirst := h.first g hg
  rw [hnil] at hfirst
  cases hfirst

theorem Split.rows_ascending {n : Nat} (h : groups.Split keyOf (List.range n))
    {g : List Cell × List Nat} (hg : g ∈ groups) : g.2.Pairwise (· < ·) := by
  rw [h.members g hg]
  exact List.pairwise_lt_range.filter _

section

variable {before after : Groups} {k : List Cell} {old : List Nat} {row : Nat}

theorem Split.old_eq (h : groups.Split keyOf rows)
    (hplace : groups.Place (keyOf row) before k old after) :
    old = rows.filter fun r => sameKey (keyOf r) k := by
  rcases hplace.groups_eq with rfl | ⟨hgroups, rfl, rfl⟩
  · exact h.members _ (List.mem_append_right _ List.mem_cons_self)
  · refine (List.filter_eq_nil_iff.mpr fun r hr hsame => ?_).symm
    -- a row of this key would be in another group, whose key is another
    obtain ⟨g, hg, hcover⟩ := h.covers r hr
    rw [sameKey_congr hsame, hplace.apart (hgroups ▸ hg)] at hcover
    cases hcover

theorem Split.first_eq (h : groups.Split keyOf rows)
    (hplace : groups.Place (keyOf row) before k old after) :
    (old ++ [row]).head?.map keyOf = some k := by
  rcases hplace.groups_eq with rfl | ⟨_, rfl, rfl⟩
  · have hmem := List.mem_append_right before (List.mem_cons_self (a := (k, old)) (l := after))
    rw [List.head?_append_of_ne_nil _ (h.ne_nil hmem)]
    exact h.first _ hmem
  · rfl

end

/-- One more row keeps the groups a split. -/
theorem Split.add (h : groups.Split keyOf rows) (row : Nat) :
    (groups.add (keyOf row) row).Split keyOf (rows ++ [row]) := by
  obtain ⟨before, k, old, after, hplace, hadd⟩ := exists_place h.ascending (keyOf row) row
  rw [hadd]
  constructor
  · have hasc := hplace.ascending
    rw [Ascending, List.map_append, List.map_cons] at hasc ⊢
    exact hasc
  · intro g hg
    rcases mem_place.mp hg with hg | rfl
    · rw [List.filter_append, List.filter_singleton, hplace.apart hg,
        ← h.members g (hplace.mem_of_other hg)]
      exact (List.append_nil _).symm
    · show old ++ [row] = (rows ++ [row]).filter fun r => sameKey (keyOf r) k
      rw [List.filter_append, List.filter_singleton, hplace.same, ← h.old_eq hplace]
      rfl
  · intro g hg
    rcases mem_place.mp hg with hg | rfl
    · exact h.first g (hplace.mem_of_other hg)
    · exact h.first_eq hplace
  · intro r hr
    have hnew : (k, old ++ [row]) ∈ before ++ (k, old ++ [row]) :: after :=
      mem_place.mpr (.inr rfl)
    rcases List.mem_append.mp hr with hr | hr
    · obtain ⟨g, hg, hsame⟩ := h.covers r hr
      rcases hplace.groups_eq with rfl | ⟨rfl, _⟩
      · rcases mem_place.mp hg with hg | rfl
        · exact ⟨g, mem_place.mpr (.inl hg), hsame⟩
        · exact ⟨_, hnew, hsame⟩
      · exact ⟨g, mem_place.mpr (.inl hg), hsame⟩
    · cases List.mem_singleton.mp hr
      exact ⟨_, hnew, hplace.same⟩

/-- Adding rows one after another splits them. -/
theorem Split.foldl (h : groups.Split keyOf rows) (more : List Nat) :
    (more.foldl (fun groups row => groups.add (keyOf row) row) groups).Split keyOf
      (rows ++ more) := by
  induction more generalizing groups rows with
  | nil =>
      rw [List.append_nil]
      exact h
  | cons row rest ih =>
      have hrest := ih (h.add row)
      rwa [List.append_assoc] at hrest

end

end Groups

namespace Table

variable {t : Table}

/-- Grouping the rows of a table splits them by their keys. -/
theorem groupRows_split {names : List String} {columns : List Column}
    (hcolumns : t.columnsOf names = .ok columns) :
    ∃ groups, t.groupRows names = .ok groups ∧
      groups.Split (keyAt columns) (List.range t.rows) := by
  have hnone : Groups.Split (keyAt columns) [] [] := Groups.split_nil
  have hsplit := hnone.foldl (List.range t.rows)
  refine ⟨_, ?_, hsplit⟩
  rw [groupRows, hcolumns]
  simp only [zipIdx_keyRows, List.foldl_map]

end Table

end TableVerbs
