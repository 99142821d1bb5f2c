import TableVerbs.Proofs.Grouping
import TableVerbs.Proofs.WellFormedTable

/-!
# Groups and sorted rows

Grouping goes through a map of keys and sorting through a merge sort, and the
two agree: the rows of all groups, one group after another, are the rows as a
stable sort by the same keys puts them. Neither is followed step by step here.
Both lists hold every row once, both are in the order of `Precedes`, by key and
among rows of one key by position, and that order leaves one list only.

In a list of sorted rows a group is a run of rows with one key. So the place of
a row in its group is a matter of counting: how many rows of the same key stand
before it, or after it. Cutting off groups is cutting off by these ranks.
-/

namespace TableVerbs

/-! ## One order -/

/-- Whether a row stands before another when rows are in the order of their keys,
and rows of one key as they came. -/
def Precedes (keyOf : Nat → List Cell) (a b : Nat) : Prop :=
  Cell.orderKeys (keyOf a) (keyOf b) = .lt ∨
    sameKey (keyOf a) (keyOf b) = true ∧ a < b

instance (keyOf : Nat → List Cell) : DecidableRel (Precedes keyOf) :=
  fun a b => inferInstanceAs (Decidable (Cell.orderKeys (keyOf a) (keyOf b) = .lt ∨
    sameKey (keyOf a) (keyOf b) = true ∧ a < b))

/-- The rows below a number in that order, each of them once. -/
structure Sorts (keyOf : Nat → List Cell) (n : Nat) (positions : List Nat) : Prop where
  perm : positions.Perm (List.range n)
  ordered : positions.Pairwise (Precedes keyOf)

/-- The comparison that rows are sorted with. -/
def keyLE (keyOf : Nat → List Cell) (a b : Nat) : Bool :=
  (Cell.orderKeys (keyOf a) (keyOf b)).isLE

section

variable {keyOf : Nat → List Cell}

theorem Precedes.asymm {a b : Nat} (h : Precedes keyOf a b) : ¬Precedes keyOf b a := by
  rcases h with h | ⟨hsame, hlt⟩
  · rintro (h' | ⟨hsame, _⟩)
    · rw [Std.OrientedCmp.gt_of_lt h] at h'
      cases h'
    · rw [not_sameKey_of_gt h] at hsame
      cases hsame
  · rintro (h' | ⟨_, hlt'⟩)
    · rw [not_sameKey_of_gt h'] at hsame
      cases hsame
    · omega

theorem keyLE_trans (a b c : Nat) (hab : keyLE keyOf a b = true) (hbc : keyLE keyOf b c = true) :
    keyLE keyOf a c = true := Std.TransCmp.isLE_trans hab hbc

theorem keyLE_total (a b : Nat) : (keyLE keyOf a b || keyLE keyOf b a) = true := by
  rw [keyLE, keyLE, @Std.OrientedCmp.eq_swap _ Cell.orderKeys _ (keyOf b) (keyOf a)]
  cases Cell.orderKeys (keyOf a) (keyOf b) <;> rfl

/-- Sorting is stable, so it leaves the rows in this order. -/
theorem pairwise_sorted (n : Nat) :
    ((List.range n).mergeSort (keyLE keyOf)).Pairwise (Precedes keyOf) := by
  have hzip : (List.range n).zipIdx = (List.range n).map fun row => (row, row) :=
    List.ext_getElem (by simp) fun i _ _ => by simp
  have hsorted := List.pairwise_mergeSort (List.zipIdxLE_trans (@keyLE_trans keyOf))
    (List.zipIdxLE_total keyLE_total) (List.range n).zipIdx
  have hnodup : ((List.range n).zipIdx.mergeSort (List.zipIdxLE (keyLE keyOf))).Nodup := by
    rw [(List.mergeSort_perm _ _).nodup_iff, hzip]
    exact List.nodup_range.map fun _ _ h => (Prod.mk.inj h).1
  rw [← List.mergeSort_zipIdx, List.pairwise_map]
  refine (hsorted.and hnodup).imp_of_mem fun {x y} hx hy h => ?_
  -- a row and its place in the range are the same number
  rw [List.mem_mergeSort, hzip] at hx hy
  obtain ⟨a, _, rfl⟩ := List.mem_map.mp hx
  obtain ⟨b, _, rfl⟩ := List.mem_map.mp hy
  obtain ⟨hle, hne⟩ := h
  have hab : a ≠ b := fun e => hne (by rw [e])
  have hforth : (Cell.orderKeys (keyOf a) (keyOf b)).isLE = true := by
    by_contra hgt
    simp [List.zipIdxLE, keyLE, hgt] at hle
  show Precedes keyOf a b
  rw [Precedes, sameKey]
  cases hkeys : Cell.orderKeys (keyOf a) (keyOf b) with
  | lt => exact .inl rfl
  | eq =>
      have hback := Std.OrientedCmp.eq_symm hkeys
      have hplaces : a ≤ b := by simpa [List.zipIdxLE, keyLE, hkeys, hback] using hle
      exact .inr ⟨rfl, by omega⟩
  | gt =>
      rw [hkeys] at hforth
      cases hforth

variable {n : Nat} {groups : Groups}

namespace Sorts

variable {positions places : List Nat}

theorem bounds (h : Sorts keyOf n positions) : ∀ i ∈ positions, i < n := by
  intro i hi
  exact List.mem_range.mp (h.perm.mem_iff.mp hi)

theorem length (h : Sorts keyOf n positions) : positions.length = n := by
  rw [h.perm.length_eq, List.length_range]

/-- The order leaves one list only. -/
theorem unique (h : Sorts keyOf n positions) (h' : Sorts keyOf n places) : positions = places :=
  List.Perm.eq_of_pairwise (fun _ _ _ _ hab hba => absurd hba hab.asymm) h.ordered h'.ordered
    (h.perm.trans h'.perm.symm)

theorem mergeSort (keyOf : Nat → List Cell) (n : Nat) :
    Sorts keyOf n ((List.range n).mergeSort (keyLE keyOf)) :=
  ⟨List.mergeSort_perm _ _, pairwise_sorted n⟩

/-- Rows in the order of their keys are in order when they are numbered anew. -/
theorem of_pairwise {keyOf' : Nat → List Cell} (h : positions.Pairwise (Precedes keyOf))
    (hkeys : ∀ i (hi : i < positions.length), keyOf' i = keyOf positions[i]) :
    Sorts keyOf' positions.length (List.range positions.length) := by
  refine ⟨List.Perm.refl _, List.pairwise_iff_getElem.mpr ?_⟩
  intro i j hi hj hij
  rw [List.length_range] at hi hj
  rw [List.getElem_range, List.getElem_range, Precedes, hkeys i hi, hkeys j hj]
  rcases List.pairwise_iff_getElem.mp h i j hi hj hij with hless | hsame
  · exact .inl hless
  · exact .inr ⟨hsame.1, hij⟩

end Sorts

/-- Groups whose rows have the keys of their groups. -/
def Groups.Keyed (keyOf : Nat → List Cell) (groups : Groups) : Prop :=
  ∀ g ∈ groups, ∀ row ∈ g.2, sameKey (keyOf row) g.1 = true

theorem Groups.Split.keyed {rows : List Nat} (h : groups.Split keyOf rows) :
    groups.Keyed keyOf := by
  intro g hg row hrow
  rw [h.members g hg] at hrow
  exact (List.mem_filter.mp hrow).2

theorem Groups.Split.pairwise_members (h : groups.Split keyOf (List.range n)) :
    groups.members.Pairwise (Precedes keyOf) := by
  refine List.pairwise_flatMap.mpr ⟨fun g hg => ?_, ?_⟩
  · refine (h.rows_ascending hg).imp_of_mem fun ha hb hab => .inr ⟨?_, hab⟩
    rw [sameKey_congr (h.keyed _ hg _ ha), sameKey_comm]
    exact h.keyed _ hg _ hb
  · refine (List.pairwise_map.mp h.ascending).imp_of_mem fun hg hg' hlt a ha b hb => .inl ?_
    have ha := sameKey_iff.mp (h.keyed _ hg _ ha)
    have hb := sameKey_iff.mp (h.keyed _ hg' _ hb)
    rw [Std.TransCmp.congr_left ha, Std.TransCmp.congr_right hb]
    exact hlt

theorem Groups.Split.mem_members {rows : List Nat} (h : groups.Split keyOf rows) {row : Nat} :
    row ∈ groups.members ↔ row ∈ rows := by
  show row ∈ groups.flatMap Prod.snd ↔ _
  rw [List.mem_flatMap]
  constructor
  · rintro ⟨g, hg, hrow⟩
    rw [h.members g hg] at hrow
    exact (List.mem_filter.mp hrow).1
  · intro hrow
    obtain ⟨g, hg, hsame⟩ := h.covers row hrow
    refine ⟨g, hg, ?_⟩
    rw [h.members g hg]
    exact List.mem_filter.mpr ⟨hrow, hsame⟩

/-- The groups hold every row once. -/
theorem Groups.Split.members_perm (h : groups.Split keyOf (List.range n)) :
    groups.members.Perm (List.range n) := by
  have hnodup : groups.members.Nodup :=
    h.pairwise_members.imp fun {a b} hab e => hab.asymm (by rwa [e] at hab ⊢)
  exact (List.perm_ext_iff_of_nodup hnodup List.nodup_range).mpr fun _ => h.mem_members

/-- One group after another, the rows are as they are when sorted. -/
theorem Groups.Split.members_sorts (h : groups.Split keyOf (List.range n)) :
    Sorts keyOf n groups.members :=
  ⟨h.members_perm, h.pairwise_members⟩

theorem Groups.Split.members_eq (h : groups.Split keyOf (List.range n)) :
    groups.members = (List.range n).mergeSort (keyLE keyOf) :=
  h.members_sorts.unique (Sorts.mergeSort keyOf n)

end

theorem Table.sortPositions_eq {t : Table} {columns : List Column}
    (h : ∀ c ∈ columns, c.length = t.rows) :
    t.sortPositions columns = .ok ((List.range t.rows).mergeSort (keyLE (keyAt columns))) := by
  have hfind : columns.find? (fun c => c.length ≠ t.rows) = none :=
    List.find?_eq_none.mpr fun c hc => by simp [h c hc]
  have hkeyed := @List.map_mergeSort _ _ (keyLE (keyAt columns))
    (fun a b => (Cell.orderKeys a.1 b.1).isLE) (fun row => (keyAt columns row, row))
    (List.range t.rows) fun _ _ _ _ => rfl
  simp only [sortPositions, hfind, zipIdx_keyRows, ← hkeyed, List.map_map]
  exact congrArg Except.ok (List.map_id _)

/-! ## Ranks -/

/-- For every key, how many of the same stand before it, with some others that
stand before all. -/
def ranksFromStart (before : List (List Cell)) : List (List Cell) → List Nat
  | [] => []
  | k :: rest => before.countP (sameKey k) :: ranksFromStart (k :: before) rest

/-- For every key, how many of the same stand after it. -/
def ranksFromEnd : List (List Cell) → List Nat
  | [] => []
  | k :: rest => rest.countP (sameKey k) :: ranksFromEnd rest

/-- Marks the ranks below a number. -/
def below (n : Nat) (ranks : List Nat) : List Bool := ranks.map fun rank => rank < n

theorem length_ranksFromStart (before keys : List (List Cell)) :
    (ranksFromStart before keys).length = keys.length := by
  induction keys generalizing before with
  | nil => rfl
  | cons k rest ih => rw [ranksFromStart, List.length_cons, List.length_cons, ih]

theorem length_ranksFromEnd (keys : List (List Cell)) :
    (ranksFromEnd keys).length = keys.length := by
  induction keys with
  | nil => rfl
  | cons k rest ih => rw [ranksFromEnd, List.length_cons, List.length_cons, ih]

theorem marked_append {α : Type} {mask mask' : List Bool} {xs ys : List α}
    (h : mask.length = xs.length) :
    marked (mask ++ mask') (xs ++ ys) = marked mask xs ++ marked mask' ys := by
  rw [marked, List.zip_append h.symm, List.filterMap_append]
  rfl

/-! ### Runs of one key -/

section

variable {keys before extra : List (List Cell)} {k : List Cell}

theorem countP_all_same (hk : ∀ key ∈ keys, sameKey key k = true) {key : List Cell}
    (hkey : sameKey key k = true) : keys.countP (sameKey key) = keys.length := by
  refine List.countP_eq_length.mpr fun other hother => ?_
  rw [sameKey_congr hkey, sameKey_comm]
  exact hk other hother

theorem countP_none_same {key : List Cell} (h : ∀ other ∈ keys, sameKey key other = false) :
    keys.countP (sameKey key) = 0 := by
  refine List.countP_eq_zero.mpr fun other hother => ?_
  rw [h other hother]
  exact Bool.false_ne_true

variable {keyOf : Nat → List Cell} {rows : List Nat}

/-- In a run of one key the ranks count on from those before. -/
theorem marked_start_run (n : Nat) (hbefore : ∀ key ∈ before, sameKey key k = true)
    (hrows : ∀ row ∈ rows, sameKey (keyOf row) k = true) :
    marked (below n (ranksFromStart before (rows.map keyOf))) rows =
      rows.take (n - before.length) := by
  induction rows generalizing before with
  | nil => exact List.take_nil.symm
  | cons row rest ih =>
      obtain ⟨hrow, hrest⟩ := List.forall_mem_cons.mp hrows
      -- for the rest this row is one more before, so one rank fewer is left
      have hnext := ih (List.forall_mem_cons.mpr ⟨hrow, hbefore⟩) hrest
      rw [List.map_cons, ranksFromStart, countP_all_same hbefore hrow, below, List.map_cons,
        marked_cons]
      rw [below, List.length_cons] at hnext
      by_cases hlt : before.length < n
      · have hsub : n - before.length = (n - (before.length + 1)) + 1 := by omega
        rw [decide_eq_true hlt, if_pos rfl, hnext, hsub, List.take_succ_cons]
      · have hzero : n - before.length = 0 := by omega
        have hzero' : n - (before.length + 1) = 0 := by omega
        rw [decide_eq_false hlt, if_neg Bool.false_ne_true, hnext, hzero, hzero', List.take_zero,
          List.take_zero]

/-- And from the end they count down. -/
theorem marked_end_run (n : Nat) (hrows : ∀ row ∈ rows, sameKey (keyOf row) k = true) :
    marked (below n (ranksFromEnd (rows.map keyOf))) rows = rows.drop (rows.length - n) := by
  induction rows with
  | nil => exact List.drop_nil.symm
  | cons row rest ih =>
      obtain ⟨hrow, hrest⟩ := List.forall_mem_cons.mp hrows
      have hkeys : ∀ key ∈ rest.map keyOf, sameKey key k = true := by
        intro key hkey
        obtain ⟨r, hr, rfl⟩ := List.mem_map.mp hkey
        exact hrest r hr
      have hnext := ih hrest
      rw [List.map_cons, ranksFromEnd, countP_all_same hkeys hrow, below, List.map_cons,
        marked_cons, List.length_map]
      rw [below] at hnext
      by_cases hlt : rest.length < n
      · have hzero : rest.length - n = 0 := by omega
        have hzero' : (row :: rest).length - n = 0 := by rw [List.length_cons]; omega
        rw [decide_eq_true hlt, if_pos rfl, hnext, hzero, hzero', List.drop_zero, List.drop_zero]
      · have hsub : (row :: rest).length - n = (rest.length - n) + 1 := by
          rw [List.length_cons]
          omega
        rw [decide_eq_false hlt, if_neg Bool.false_ne_true, hnext, hsub, List.drop_succ_cons]

/-! ### One run after another -/

theorem ranksFromStart_append (before keys more : List (List Cell)) :
    ranksFromStart before (keys ++ more) =
      ranksFromStart before keys ++ ranksFromStart (keys.reverse ++ before) more := by
  induction keys generalizing before with
  | nil => rfl
  | cons k rest ih =>
      rw [List.cons_append, ranksFromStart, ih, ranksFromStart, List.reverse_cons,
        List.append_assoc]
      rfl

/-- Other keys do not count. -/
theorem ranksFromStart_apart (h : ∀ key ∈ keys, ∀ other ∈ before, sameKey key other = false) :
    ranksFromStart (extra ++ before) keys = ranksFromStart extra keys := by
  induction keys generalizing extra with
  | nil => rfl
  | cons k rest ih =>
      obtain ⟨hk, hrest⟩ := List.forall_mem_cons.mp h
      have hnext := @ih (k :: extra) hrest
      rw [ranksFromStart, ranksFromStart, List.countP_append, countP_none_same hk, Nat.add_zero,
        ← hnext]
      rfl

theorem ranksFromEnd_append {more : List (List Cell)}
    (h : ∀ key ∈ keys, ∀ other ∈ more, sameKey key other = false) :
    ranksFromEnd (keys ++ more) = ranksFromEnd keys ++ ranksFromEnd more := by
  induction keys with
  | nil => rfl
  | cons k rest ih =>
      obtain ⟨hk, hrest⟩ := List.forall_mem_cons.mp h
      rw [List.cons_append, ranksFromEnd, ih hrest, List.countP_append, countP_none_same hk,
        Nat.add_zero]
      rfl

end

/-! ### Groups -/

namespace Groups

variable {keyOf : Nat → List Cell} {groups : Groups}

theorem keys_apart {g : List Cell × List Nat} (hasc : Ascending (g :: groups))
    (hkeyed : Keyed keyOf (g :: groups)) :
    ∀ key ∈ g.2.map keyOf, ∀ other ∈ groups.members.map keyOf, sameKey key other = false := by
  intro key hkey other hother
  obtain ⟨r, hr, rfl⟩ := List.mem_map.mp hkey
  obtain ⟨r', hr', rfl⟩ := List.mem_map.mp hother
  obtain ⟨g', hg', hr'⟩ := List.mem_flatMap.mp hr'
  have hlt := (ascending_cons.mp hasc).1 g' hg'
  rw [sameKey_congr (hkeyed g List.mem_cons_self r hr), sameKey_comm,
    sameKey_congr (hkeyed g' (List.mem_cons_of_mem _ hg') r' hr')]
  exact not_sameKey_of_gt hlt

theorem members_cons (g : List Cell × List Nat) (rest : Groups) :
    members (g :: rest) = g.2 ++ rest.members := List.flatMap_cons

/-- Rows ranked below a number from the start are the first ones of each group. -/
theorem marked_start (n : Nat) {before : List (List Cell)} (hasc : groups.Ascending)
    (hkeyed : groups.Keyed keyOf)
    (hbefore : ∀ key ∈ groups.members.map keyOf, ∀ other ∈ before, sameKey key other = false) :
    marked (below n (ranksFromStart before (groups.members.map keyOf))) groups.members =
      groups.flatMap fun g => g.2.take n := by
  induction groups generalizing before with
  | nil => rfl
  | cons g rest ih =>
      have hapart := keys_apart hasc hkeyed
      rw [members_cons, List.map_append] at hbefore ⊢
      have hfirst := @ranksFromStart_apart (g.2.map keyOf) before [] fun key hkey =>
        hbefore key (List.mem_append_left _ hkey)
      rw [List.nil_append] at hfirst
      have hrun : marked (below n (ranksFromStart [] (g.2.map keyOf))) g.2 = g.2.take n :=
        marked_start_run n (fun _ h => by cases h) (hkeyed g List.mem_cons_self)
      have hbefore' : ∀ key ∈ (members rest).map keyOf,
          ∀ other ∈ (g.2.map keyOf).reverse ++ before, sameKey key other = false := by
        intro key hkey other hother
        rcases List.mem_append.mp hother with hother | hother
        · rw [sameKey_comm]
          exact hapart other (List.mem_reverse.mp hother) key hkey
        · exact hbefore key (List.mem_append_right _ hkey) other hother
      have hrest := ih (ascending_cons.mp hasc).2
        (fun g' hg' => hkeyed g' (List.mem_cons_of_mem _ hg')) hbefore'
      rw [ranksFromStart_append, hfirst, below, List.map_append, marked_append, List.flatMap_cons]
      · rw [below] at hrun hrest
        rw [hrun, hrest]
      · rw [List.length_map, length_ranksFromStart, List.length_map]

/-- And those ranked below it from the end the last ones. -/
theorem marked_end (n : Nat) (hasc : groups.Ascending) (hkeyed : groups.Keyed keyOf) :
    marked (below n (ranksFromEnd (groups.members.map keyOf))) groups.members =
      groups.flatMap fun g => g.2.drop (g.2.length - n) := by
  induction groups with
  | nil => rfl
  | cons g rest ih =>
      have hrun := marked_end_run n (hkeyed g List.mem_cons_self)
      have hrest := ih (ascending_cons.mp hasc).2
        fun g' hg' => hkeyed g' (List.mem_cons_of_mem _ hg')
      rw [members_cons, List.map_append, ranksFromEnd_append (keys_apart hasc hkeyed), below,
        List.map_append, marked_append, List.flatMap_cons]
      · rw [below] at hrun hrest
        rw [hrun, hrest]
      · rw [List.length_map, length_ranksFromEnd, List.length_map]

end Groups

end TableVerbs
