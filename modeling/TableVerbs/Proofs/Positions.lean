import TableVerbs.Proofs.Picking
import TableVerbs.Proofs.Success
import TableVerbs.Table.Keys
import TableVerbs.Table.Sample

/-!
# Positions are rows

Gathering takes its positions on trust. They come from four places: the ends of
a table, the sorting and the grouping of its rows, and the draws of a sample.
All but the last number the rows themselves, by `zipIdx` or `range`, and pass
the numbers on; nothing on the way makes up a number of its own. Draws come
from outside, so what is shown of a sample is that it only ever makes requests
that a source can answer.
-/

namespace TableVerbs

theorem mem_zipIdx_lt {α : Type} {xs : List α} {x : α} {i : Nat} (h : (x, i) ∈ xs.zipIdx) :
    i < xs.length := by
  have hi : i ∈ xs.zipIdx.map Prod.snd := List.mem_map.mpr ⟨(x, i), h, rfl⟩
  rw [List.zipIdx_map_snd, ← List.range_eq_range'] at hi
  exact List.mem_range.mp hi

theorem length_keyRows (rows : Nat) (columns : List Column) :
    (keyRows rows columns).length = rows := by
  rw [keyRows, List.length_map, List.length_range]

/-! ## Groups -/

/-- The rows of some groups. -/
def Groups.members (groups : Groups) : List Nat := groups.flatMap Prod.snd

theorem Groups.mem_members_add {groups : Groups} {key : List Cell} {row i : Nat}
    (h : i ∈ (groups.add key row).members) : i = row ∨ i ∈ groups.members := by
  induction groups with
  | nil => exact .inl (List.mem_singleton.mp h)
  | cons g rest ih =>
      obtain ⟨k, rows⟩ := g
      rw [add] at h
      split at h
      · exact List.mem_cons.mp h
      · rcases List.mem_append.mp h with h | h
        · rcases List.mem_append.mp h with h | h
          · exact .inr (List.mem_append_left _ h)
          · exact .inl (List.mem_singleton.mp h)
        · exact .inr (List.mem_append_right _ h)
      · rcases List.mem_append.mp h with h | h
        · exact .inr (List.mem_append_left _ h)
        · exact (ih h).imp_right (List.mem_append_right _)

theorem Groups.mem_members_foldl {keyed : List (List Cell × Nat)} {groups : Groups} {i : Nat}
    (h : i ∈ (keyed.foldl (fun groups (key, row) => groups.add key row) groups).members) :
    i ∈ keyed.map Prod.snd ∨ i ∈ groups.members := by
  induction keyed generalizing groups with
  | nil => exact .inr h
  | cons kr rest ih =>
      rcases ih h with h | h
      · exact .inl (List.mem_cons_of_mem _ h)
      · rcases mem_members_add h with rfl | h
        · exact .inl List.mem_cons_self
        · exact .inr h

namespace Table

variable {t : Table}

theorem groupRows_bounds {names : List String} {groups : Groups}
    (h : t.groupRows names = .ok groups) : ∀ g ∈ groups, ∀ i ∈ g.2, i < t.rows := by
  intro g hg i hi
  rw [groupRows] at h
  split at h
  · cases h
  next columns hcolumns =>
    cases h
    have hmem := Groups.mem_members_foldl (List.mem_flatMap.mpr ⟨g, hg, hi⟩)
    rcases hmem with hmem | hmem
    · obtain ⟨⟨key, row⟩, hkey, rfl⟩ := List.mem_map.mp hmem
      exact length_keyRows t.rows columns ▸ mem_zipIdx_lt hkey
    · cases hmem

/-! ## Sorted rows -/

theorem sortPositions_bounds {keys : List Column} {positions : List Nat}
    (h : t.sortPositions keys = .ok positions) : ∀ i ∈ positions, i < t.rows := by
  intro i hi
  rw [sortPositions] at h
  split at h
  · cases h
  · cases h
    obtain ⟨⟨key, row⟩, hkey, rfl⟩ := List.mem_map.mp hi
    exact length_keyRows t.rows keys ▸ mem_zipIdx_lt (List.mem_mergeSort.mp hkey)

/-! ## The ends of a table -/

theorem headPositions_bounds (n : Nat) : ∀ i ∈ t.headPositions n, i < t.rows :=
  fun _ hi => Nat.lt_of_lt_of_le (List.mem_range.mp hi) (Nat.min_le_right n t.rows)

theorem tailPositions_bounds (n : Nat) : ∀ i ∈ t.tailPositions n, i < t.rows :=
  fun _ hi => List.mem_range.mp (List.mem_of_mem_drop hi)

end Table

/-! ## Samples -/

/-- A source that answers every possible request with rows that exist. -/
def Draws.InBounds (draws : Draws) : Prop :=
  ∀ r : DrawRequest, r.Possible → ∀ i ∈ draws r, i < r.population

/-- The source that draws the first rows that may be drawn at all. -/
def Draws.first : Draws := fun r => r.eligible.take r.amount

theorem Draws.inBounds_first : Draws.first.InBounds := fun _ _ _ hi =>
  List.mem_range.mp (List.mem_filter.mp (List.mem_of_mem_take hi)).1

theorem DrawRequest.length_eligible_weighted {r : DrawRequest} {ws : List Float}
    (hweights : r.weights = some ws) (hlen : ws.length = r.population) :
    r.eligible.length = ws.countP fun w => 0.0 < w := by
  have hws : ws = (List.range r.population).filterMap fun p => ws[p]? := by
    rw [← hlen]
    exact (pick_range ws).symm
  rw [hws, List.countP_filterMap, eligible, hweights, ← List.countP_eq_length_filter]
  refine List.countP_congr fun p _ => ?_
  show (ws[p]?.any _ = true) ↔ _
  cases ws[p]? <;> rfl

theorem DrawRequest.length_eligible_uniform {r : DrawRequest} (hweights : r.weights = none) :
    r.eligible.length = r.population := by
  rw [eligible, hweights, List.filter_true, List.length_range]

/-- What passes the checks of a sample can be drawn. -/
theorem Sample.possible_of_checks {s : Sample} {rows amount : Nat} {weights : Option (List Float)}
    (hrows : rows ≠ 0) (hamount : amount ≠ 0) (hfew : ¬(s.replace = false ∧ rows < amount))
    (hfault : weights.bind (s.weightFault? rows amount) = none) :
    DrawRequest.Possible ⟨s.seed, rows, amount, s.replace, weights⟩ := by
  have hne : ∀ r : DrawRequest, r.eligible.length ≠ 0 → r.eligible ≠ [] :=
    fun _ h => List.ne_nil_of_length_pos (Nat.pos_of_ne_zero h)
  rw [DrawRequest.Possible]
  cases weights with
  | none =>
      have hlen := DrawRequest.length_eligible_uniform
        (r := ⟨s.seed, rows, amount, s.replace, none⟩) rfl
      split
      · exact hne _ (by rwa [hlen])
      next hreplace =>
        rw [hlen]
        exact Nat.le_of_not_lt fun h => hfew ⟨Bool.eq_false_iff.mpr hreplace, h⟩
  | some ws =>
      have hlen := @DrawRequest.length_eligible_weighted
        ⟨s.seed, rows, amount, s.replace, some ws⟩ ws rfl
      simp only [Option.bind_some, weightFault?] at hfault
      -- what is left are the two ways to pass, with and without putting back
      split_ifs at hfault with hlength hbad hreplace hempty hpositive hmany
      · rw [if_pos hreplace]
        exact hne _ (by rwa [hlen (not_not.mp hlength)])
      · rw [if_neg hreplace, hlen (not_not.mp hlength)]
        exact Nat.le_of_not_lt hmany

/-- What was asked for, where a sample has positions, and where these are from. A source
is not asked for nothing, nor for positions in a table without rows. -/
theorem Sample.positions_eq_ok {s : Sample} {draws : Draws} {t : Table} {positions : List Nat}
    (h : s.positions draws t = .ok positions) :
    ∃ amount weights, s.amount t.rows = .ok amount ∧ s.weightsOn t = .ok weights ∧
      ¬(s.replace = false ∧ t.rows < amount) ∧
      weights.bind (s.weightFault? t.rows amount) = none ∧
      ((amount = 0 ∨ t.rows = 0) ∧ positions = [] ∨
        amount ≠ 0 ∧ t.rows ≠ 0 ∧
          positions = draws ⟨s.seed, t.rows, amount, s.replace, weights⟩) := by
  simp only [Sample.positions] at h
  split at h
  · cases h
  next amount hamount =>
    split at h
    · cases h
    next hfew =>
      split at h
      · cases h
      next weights hweights =>
        split at h
        · cases h
        next hfault =>
          refine ⟨amount, weights, hamount, hweights, hfew, hfault, ?_⟩
          split at h
          next hnone =>
            cases h
            exact .inl ⟨hnone, rfl⟩
          next hsome =>
            cases h
            obtain ⟨hpositive, hrows⟩ := not_or.mp hsome
            exact .inr ⟨hpositive, hrows, rfl⟩

theorem Sample.positions_bounds {s : Sample} {draws : Draws} (hdraws : draws.InBounds) {t : Table}
    {positions : List Nat} (h : s.positions draws t = .ok positions) :
    ∀ i ∈ positions, i < t.rows := by
  obtain ⟨amount, weights, _, _, hfew, hfault, ⟨_, rfl⟩ | ⟨hamount, hrows, rfl⟩⟩ :=
    positions_eq_ok h
  · intro i hi
    cases hi
  · exact hdraws _ (possible_of_checks hrows hamount hfew hfault)

end TableVerbs
