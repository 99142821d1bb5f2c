import TableVerbs.Proofs.SummaryRows

/-!
# Rows on top of each other

A table of one row for each group is put together column by column, and a column
is put together from as many columns of one cell. So what was said of stacks in
general becomes a matter of cells: they have to be of one kind, not counting
missing ones, and the type that they are taken over into is the one that they
share. A missing cell among texts becomes a text, and among anything else it
makes floats of all.
-/

namespace TableVerbs

/-- Cells that, missing ones aside, are all texts, all truth values or all
numbers. -/
def Mergeable (vals : List Cell) : Prop :=
  (∀ v ∈ vals, v.isNaN = false → v.type = .str) ∨
  (∀ v ∈ vals, v.isNaN = false → v.type = .bool) ∨
  ∀ v ∈ vals, v.isNaN = false → v.type = .int ∨ v.type = .float

/-- The type that such cells are taken over into. -/
def mergedType (vals : List Cell) : CellType :=
  if vals.any (·.type == .str) then .str
  else if vals.any Cell.isNaN then .float
  else if vals.all (·.type == .int) then .int
  else if vals.all (·.type == .bool) then .bool
  else .float

theorem mergedType_of_type {vals : List Cell} {type : CellType} (hne : vals ≠ [])
    (h : ∀ v ∈ vals, v.type = type) : mergedType vals = type := by
  have hall : ∀ test : CellType → Bool, vals.all (fun v => test v.type) = test type := by
    intro test
    have htypes := Column.all_uniform (mt List.map_eq_nil_iff.mp hne) (List.forall_mem_map.mpr h)
    exact List.all_map.symm.trans (htypes test)
  have hany : vals.any (fun v => v.type == .str) = (type == .str) := by
    rw [List.any_eq_not_all_not, hall fun t => !(t == .str)]
    exact Bool.not_not _
  rw [mergedType, hany, hall (· == .int), hall (· == .bool)]
  cases type with
  | float => simp
  | str => rfl
  | int | bool =>
      have hnan : vals.any Cell.isNaN = false := by
        rw [List.any_eq_false]
        intro v hv hnan
        cases v with
        | float x => cases h _ hv
        | int x | bool x | str x => cases hnan
      rw [hnan]
      rfl

theorem mergeable_of_type {vals : List Cell} {type : CellType} (h : ∀ v ∈ vals, v.type = type) :
    Mergeable vals := by
  cases type with
  | str => exact .inl fun v hv _ => h v hv
  | bool => exact .inr (.inl fun v hv _ => h v hv)
  | int => exact .inr (.inr fun v hv _ => .inl (h v hv))
  | float => exact .inr (.inr fun v hv _ => .inr (h v hv))

namespace Column

theorem isMissing_replicate (v : Cell) : (replicate 1 v).isMissing = v.isNaN := by
  cases v with
  | float x => exact Bool.and_true _
  | int x | bool x | str x => rfl

theorem cells_replicate_one (v : Cell) : (replicate 1 v).cells = [v] := by
  cases v <;> rfl

theorem type_replicate (n : Nat) (v : Cell) : (replicate n v).type = v.type := by
  cases v <;> rfl

section

variable {vals : List Cell}

theorem nonEmpty_replicate : nonEmpty (vals.map (replicate 1)) = vals.map (replicate 1) := by
  refine List.filter_eq_self.mpr fun p hp => ?_
  obtain ⟨v, _, rfl⟩ := List.mem_map.mp hp
  rw [length_replicate]
  rfl

theorem types_deciding_replicate :
    (deciding (vals.map (replicate 1))).map type =
      (vals.filter fun v => !v.isNaN).map Cell.type := by
  rw [deciding, nonEmpty_replicate, List.filter_map, List.map_map]
  have htest : (fun c : Column => !c.isMissing) ∘ replicate 1 = fun v : Cell => !v.isNaN := by
    funext v
    exact congrArg (!·) (isMissing_replicate v)
  rw [htest]
  exact List.map_congr_left fun v _ => type_replicate 1 v

theorem all_filter_not_missing (test : CellType → Bool) :
    ((vals.filter fun v => !v.isNaN).map Cell.type).all test = true ↔
      ∀ v ∈ vals, v.isNaN = false → test v.type = true := by
  rw [List.all_map, List.all_eq_true]
  constructor
  · intro h v hv hnan
    exact h v (List.mem_filter.mpr ⟨hv, by rw [hnan]; rfl⟩)
  · intro h v hv
    obtain ⟨hv, hnan⟩ := List.mem_filter.mp hv
    exact h v hv (by simpa using hnan)

theorem any_missing_replicate :
    (nonEmpty (vals.map (replicate 1))).any isMissing = vals.any Cell.isNaN := by
  have htest : isMissing ∘ replicate 1 = Cell.isNaN := funext isMissing_replicate
  rw [nonEmpty_replicate, List.any_map, htest]

theorem isNaN_of_type {v : Cell} (h : v.type ≠ .float) : v.isNaN = false := by
  cases v with
  | float x => exact absurd rfl h
  | int x | bool x | str x => rfl

theorem all_present_type (type : CellType) :
    ((vals.filter fun v => !v.isNaN).map Cell.type).all (· == type) = true ↔
      ∀ v ∈ vals, v.isNaN = false → v.type = type := by
  rw [all_filter_not_missing]
  simp only [beq_iff_eq]

theorem all_present_number :
    ((vals.filter fun v => !v.isNaN).map Cell.type).all (fun t => t == .int || t == .float) =
        true ↔
      ∀ v ∈ vals, v.isNaN = false → v.type = .int ∨ v.type = .float := by
  rw [all_filter_not_missing fun t => t == .int || t == .float]
  simp only [Bool.or_eq_true, beq_iff_eq]

theorem any_str_eq_false (h : ∀ v ∈ vals, v.isNaN = false → v.type ≠ .str) :
    vals.any (·.type == .str) = false := by
  rw [List.any_eq_false]
  intro v hv hstr
  have htype := beq_iff_eq.mp hstr
  exact h v hv (isNaN_of_type (by rw [htype]; decide)) htype

/-! ### The type for each kind of cells -/

theorem all_int_eq_false (h : ¬∀ v ∈ vals, v.isNaN = false → v.type = .int) :
    vals.all (·.type == .int) = false := by
  rw [← Bool.not_eq_true]
  exact fun hall => h fun v hv _ => beq_iff_eq.mp (List.all_eq_true.mp hall v hv)

theorem all_type_of_present {type : CellType} (hnan : vals.any Cell.isNaN = false)
    (h : ∀ v ∈ vals, v.isNaN = false → v.type = type) : vals.all (·.type == type) = true := by
  refine List.all_eq_true.mpr fun v hv => beq_iff_eq.mpr (h v hv ?_)
  simpa using List.any_eq_false.mp hnan v hv

theorem mergedType_of_ints (h : ∀ v ∈ vals, v.isNaN = false → v.type = .int) :
    mergedType vals = if vals.any Cell.isNaN then .float else .int := by
  have hstr := any_str_eq_false fun v hv hnan hstr => by cases (h v hv hnan).symm.trans hstr
  rw [mergedType, hstr]
  cases hnan : vals.any Cell.isNaN with
  | true => rfl
  | false =>
      rw [all_type_of_present hnan h]
      rfl

theorem mergedType_of_numbers
    (h : ∀ v ∈ vals, v.isNaN = false → v.type = .int ∨ v.type = .float)
    (hnot : ¬∀ v ∈ vals, v.isNaN = false → v.type = .int) : mergedType vals = .float := by
  have hstr := any_str_eq_false fun v hv hnan hstr => by
    rcases h v hv hnan with hv | hv <;> cases hv.symm.trans hstr
  rw [mergedType, hstr, all_int_eq_false hnot]
  cases hnan : vals.any Cell.isNaN with
  | true => rfl
  | false =>
      have hbool : vals.all (·.type == .bool) = false := by
        rw [← Bool.not_eq_true]
        refine fun hall => hnot fun v hv hnan => ?_
        have hv' := beq_iff_eq.mp (List.all_eq_true.mp hall v hv)
        rcases h v hv hnan with hv | hv <;> cases hv'.symm.trans hv
      rw [hbool]
      rfl

theorem mergedType_of_bools (h : ∀ v ∈ vals, v.isNaN = false → v.type = .bool)
    (hnot : ¬∀ v ∈ vals, v.isNaN = false → v.type = .int) :
    mergedType vals = if vals.any Cell.isNaN then .float else .bool := by
  have hstr := any_str_eq_false fun v hv hnan hstr => by cases (h v hv hnan).symm.trans hstr
  rw [mergedType, hstr, all_int_eq_false hnot]
  cases hnan : vals.any Cell.isNaN with
  | true => rfl
  | false =>
      rw [all_type_of_present hnan h]
      rfl

theorem mergedType_of_strs (h : ∀ v ∈ vals, v.isNaN = false → v.type = .str)
    (hnot : ¬∀ v ∈ vals, v.isNaN = false → v.type = .int) : mergedType vals = .str := by
  have hany : vals.any (·.type == .str) = true := by
    push Not at hnot
    obtain ⟨v, hv, hnan, _⟩ := hnot
    exact List.any_eq_true.mpr ⟨v, hv, beq_iff_eq.mpr (h v hv hnan)⟩
  rw [mergedType, hany]
  rfl

/-- The type of a stack of single cells. -/
theorem stackedType?_replicate {type : CellType} :
    stackedType? (vals.map (replicate 1)) = some type ↔
      Mergeable vals ∧ type = mergedType vals := by
  have hfound : ∀ {found}, Mergeable vals → mergedType vals = found →
      (some found = some type ↔ Mergeable vals ∧ type = mergedType vals) := by
    rintro found hmerge rfl
    exact ⟨fun h => ⟨hmerge, (Option.some.inj h).symm⟩, fun h => congrArg some h.2.symm⟩
  rw [stackedType?, types_deciding_replicate, any_missing_replicate, commonType?]
  -- which kind the cells that are not missing share, tried in the order of `commonType?`
  by_cases hint : ∀ v ∈ vals, v.isNaN = false → v.type = .int
  · rw [if_pos ((all_present_type _).mpr hint)]
    refine hfound (.inr (.inr fun v hv hnan => .inl (hint v hv hnan))) ?_
    rw [mergedType_of_ints hint]
    cases vals.any Cell.isNaN <;> rfl
  rw [if_neg (mt (all_present_type _).mp hint)]
  by_cases hnumber : ∀ v ∈ vals, v.isNaN = false → v.type = .int ∨ v.type = .float
  · rw [if_pos (all_present_number.mpr hnumber)]
    refine hfound (.inr (.inr hnumber)) ?_
    rw [mergedType_of_numbers hnumber hint]
    cases vals.any Cell.isNaN <;> rfl
  rw [if_neg (mt all_present_number.mp hnumber)]
  by_cases hbool : ∀ v ∈ vals, v.isNaN = false → v.type = .bool
  · rw [if_pos ((all_present_type _).mpr hbool)]
    refine hfound (.inr (.inl hbool)) ?_
    rw [mergedType_of_bools hbool hint]
    cases vals.any Cell.isNaN <;> rfl
  rw [if_neg (mt (all_present_type _).mp hbool)]
  by_cases hstr : ∀ v ∈ vals, v.isNaN = false → v.type = .str
  · rw [if_pos ((all_present_type _).mpr hstr)]
    refine hfound (.inl hstr) ?_
    rw [mergedType_of_strs hstr hint]
    cases vals.any Cell.isNaN <;> rfl
  · rw [if_neg (mt (all_present_type _).mp hstr)]
    refine iff_of_false (fun h => by cases h) ?_
    rintro ⟨hstrs | hbools | hnumbers, _⟩
    · exact hstr hstrs
    · exact hbool hbools
    · exact hnumber hnumbers

theorem nonEmpty_replicate_ne_nil (hne : vals ≠ []) :
    nonEmpty (vals.map (replicate 1)) ≠ [] := by
  rw [nonEmpty_replicate]
  exact mt List.map_eq_nil_iff.mp hne

/-- Cells stacked as columns of their own. -/
theorem stack_replicate (hne : vals ≠ []) {c : Column} :
    stack (vals.map (replicate 1)) = .ok c ↔ Mergeable vals ∧ c.type = mergedType vals ∧
      c.cells = vals.map (Cell.promote (mergedType vals)) := by
  have hcells : ∀ f : Cell → Cell,
      (vals.map (replicate 1)).flatMap (fun p => p.cells.map f) = vals.map f := by
    intro f
    simp only [List.flatMap_map, cells_replicate_one, List.map_singleton]
    exact List.flatMap_pure_eq_map f vals
  rw [stack_eq_ok (nonEmpty_replicate_ne_nil hne), stackedType?_replicate, hcells, and_assoc]
  refine and_congr_right fun _ => and_congr_right fun htype => ?_
  rw [htype]

theorem exists_stack_replicate (hne : vals ≠ []) :
    (∃ c, stack (vals.map (replicate 1)) = .ok c) ↔ Mergeable vals := by
  constructor
  · rintro ⟨c, hc⟩
    exact ((stack_replicate hne).mp hc).1
  · intro hmerge
    obtain ⟨c, hc, _⟩ := exists_stack (nonEmpty_replicate_ne_nil hne)
      (stackedType?_replicate.mpr ⟨hmerge, rfl⟩)
    exact ⟨c, hc⟩

end

end Column

namespace Table

variable {ρ : Type} {names : List String} {rows : List ρ} {cell : ρ → String → Cell}

@[simp] theorem names_oneRow (names : List String) (cell : String → Cell) :
    (oneRow names cell).names = names := by
  rw [oneRow, Table.names, List.map_map]
  exact List.map_id _

@[simp] theorem rows_oneRow (names : List String) (cell : String → Cell) :
    (oneRow names cell).rows = 1 := rfl

theorem totalSize_oneRow :
    totalSize Table.rows (rows.map fun r => oneRow names (cell r)) = rows.length := by
  induction rows with
  | nil => rfl
  | cons r rest ih => rw [List.map_cons, totalSize, ih, rows_oneRow, List.length_cons, Nat.add_comm]

theorem stackColumn_oneRow {name : String} (hname : name ∈ names) :
    stackColumn (rows.map fun r => oneRow names (cell r)) name =
      (Column.stack ((rows.map fun r => cell r name).map (Column.replicate 1))).map
        fun c => (name, c) := by
  have hparts : (rows.map fun r => oneRow names (cell r)).filterMap (fun t => t.find? name) =
      (rows.map fun r => cell r name).map (Column.replicate 1) := by
    rw [List.filterMap_map, List.map_map, ← List.filterMap_eq_map]
    exact List.filterMap_congr fun r _ => lookup_self (fun n => Column.replicate 1 (cell r n)) hname
  rw [stackColumn, hparts]

theorem stack_oneRow_eq (hne : rows ≠ []) :
    stack (rows.map fun r => oneRow names (cell r)) =
      (names.mapM (stackColumn (rows.map fun r => oneRow names (cell r)))).map
        fun columns => ⟨columns, List.range rows.length⟩ := by
  rw [stack_of_names (mt List.map_eq_nil_iff.mp hne)
    (List.forall_mem_map.mpr fun r _ => names_oneRow names (cell r)), totalSize_oneRow]

/-- Rows with the same names go on top of each other exactly if the cells of every
name can be merged, and then they are merged under the names. -/
theorem stack_oneRow (hnodup : names.Nodup) (hne : rows ≠ []) :
    ((∃ t, stack (rows.map fun r => oneRow names (cell r)) = .ok t) ↔
      ∀ name ∈ names, Mergeable (rows.map fun r => cell r name)) ∧
    ∀ t, stack (rows.map fun r => oneRow names (cell r)) = .ok t →
      t.labels = List.range rows.length ∧ t.names = names ∧
      ∀ name ∈ names, ∃ c, t.find? name = some c ∧
        c.type = mergedType (rows.map fun r => cell r name) ∧
        c.cells = (rows.map fun r => cell r name).map
          (Cell.promote (mergedType (rows.map fun r => cell r name))) := by
  have hvals : ∀ name, (rows.map fun r => cell r name) ≠ [] :=
    fun name => mt List.map_eq_nil_iff.mp hne
  have hok : ∀ name ∈ names, ∀ {c}, stackColumn (rows.map fun r => oneRow names (cell r)) name =
      .ok c ↔ c.1 = name ∧ Column.stack ((rows.map fun r => cell r name).map
        (Column.replicate 1)) = .ok c.2 := by
    intro name hname c
    rw [stackColumn_oneRow hname, map_eq_ok]
    constructor
    · rintro ⟨d, hd, rfl⟩
      exact ⟨rfl, hd⟩
    · rintro ⟨rfl, hd⟩
      exact ⟨c.2, hd, rfl⟩
  rw [stack_oneRow_eq hne]
  constructor
  · have hsucceeds : (∃ columns, names.mapM
        (stackColumn (rows.map fun r => oneRow names (cell r))) = .ok columns) ↔
          ∀ name ∈ names, Mergeable (rows.map fun r => cell r name) := by
      rw [mapM_succeeds]
      refine forall₂_congr fun name hname => ?_
      rw [← Column.exists_stack_replicate (hvals name)]
      constructor
      · rintro ⟨c, hc⟩
        exact ⟨c.2, ((hok name hname).mp hc).2⟩
      · rintro ⟨c, hc⟩
        exact ⟨(name, c), (hok name hname).mpr ⟨rfl, hc⟩⟩
    rw [← hsucceeds]
    constructor
    · rintro ⟨t, ht⟩
      obtain ⟨columns, hcolumns, _⟩ := map_eq_ok.mp ht
      exact ⟨columns, hcolumns⟩
    · rintro ⟨columns, hcolumns⟩
      exact ⟨_, map_eq_ok.mpr ⟨columns, hcolumns, rfl⟩⟩
  · intro t ht
    obtain ⟨columns, hcolumns, rfl⟩ := map_eq_ok.mp ht
    have hfst : columns.map Prod.fst = names := by
      unfold stackColumn at hcolumns
      exact map_fst_of_mapM hcolumns
    refine ⟨rfl, hfst, fun name hname => ?_⟩
    rw [← hfst] at hname
    obtain ⟨c, hc, rfl⟩ := List.mem_map.mp hname
    obtain ⟨name, hname', hstack⟩ := mem_of_mapM hcolumns hc
    obtain ⟨rfl, hstack⟩ := (hok name hname').mp hstack
    have hdistinct : (Table.names ⟨columns, List.range rows.length⟩).Nodup := by
      show (columns.map Prod.fst).Nodup
      rwa [hfst]
    have hfind := find?_of_mem hdistinct hc
    obtain ⟨_, htype, hcells⟩ := (Column.stack_replicate (hvals c.1)).mp hstack
    exact ⟨c.2, hfind, htype, hcells⟩

end Table

end TableVerbs
