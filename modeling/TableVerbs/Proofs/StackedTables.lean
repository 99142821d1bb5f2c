import TableVerbs.Proofs.StackValues
import TableVerbs.Proofs.WellFormedTable

/-!
# Stacking tables loses nothing

A stack of tables exists if the tables have the same names and if the parts of every
column come to a type; parts without values have no say in that, and neither have
those of missing values. The cells of the stack are then those of the tables, one
table after the other. A part whose type is not the one of its column is turned into
it and never left out, for every part that has values can be read as the type that
was found.
-/

namespace TableVerbs

/-- How a cell is taken over from one of some parts into a column of a type. Integers
become floats among floats. Where a part is missing, truth values become floats, and
among texts the missing values are written out. -/
inductive Cell.TakenOver (parts : List Column) (type : CellType) : Cell → Cell → Prop
  | same {v : Cell} (h : v.type = type) : TakenOver parts type v v
  | int {x : Int64} (h : type = .float) (hfloat : ∃ q ∈ parts, q.type = .float) :
      TakenOver parts type (.int x) (.float (Number.toFloat x))
  | bool {b : Bool} (h : type = .float) (hmissing : ∃ q ∈ parts, q.isMissing = true) :
      TakenOver parts type (.bool b) (.float (if b then 1.0 else 0.0))
  | nan {x : Float} (h : type = .str) (hx : x.isNaN = true)
      (hmissing : ∃ q ∈ parts, q.isMissing = true) : TakenOver parts type (.float x) (.str "NaN")

namespace Column

/-- Parts that can be put end to end: those with values, the ones that are missing
apart, have one type or hold numbers. -/
def Stackable (parts : List Column) : Prop :=
  (∃ type, ∀ c ∈ parts, c.length ≠ 0 → c.isMissing = false → c.type = type) ∨
    ∀ c ∈ parts, c.length ≠ 0 → c.isMissing = false → c.type = .int ∨ c.type = .float

theorem exists_commonType? {types : List CellType} :
    (∃ type, commonType? types = some type) ↔
      (∃ type, ∀ t ∈ types, t = type) ∨ ∀ t ∈ types, t = .int ∨ t = .float := by
  constructor
  · rintro ⟨type, htype⟩
    have hwidens := widens_commonType? htype
    by_cases hfloat : type = .float
    · refine .inr fun t ht => ?_
      rcases hwidens t ht with hsame | ⟨hint, _⟩
      · exact .inr (hsame.trans hfloat)
      · exact .inl hint
    · refine .inl ⟨type, fun t ht => (hwidens t ht).resolve_right fun h => hfloat h.2⟩
  · rintro (⟨type, htype⟩ | hnumber)
    · cases types with
      | nil => exact ⟨.int, rfl⟩
      | cons t rest => exact ⟨type, commonType?_replicate (List.cons_ne_nil t rest) htype⟩
    · have hall : types.all (fun t => t == .int || t == .float) = true := by
        refine List.all_eq_true.mpr fun t ht => ?_
        rcases hnumber t ht with rfl | rfl <;> rfl
      rw [commonType?, hall]
      split
      · exact ⟨_, rfl⟩
      · exact ⟨_, rfl⟩

theorem mem_deciding {parts : List Column} {c : Column} :
    c ∈ deciding parts ↔ c ∈ parts ∧ c.length ≠ 0 ∧ c.isMissing = false := by
  simp only [deciding, nonEmpty, List.mem_filter, bne_iff_ne, Bool.not_eq_true', and_assoc]

/-- Parts have a stack exactly if they are such. -/
theorem exists_stack_iff {parts : List Column} :
    (∃ c, stack parts = .ok c) ↔ Stackable parts := by
  have hstackable : Stackable parts ↔
      ∃ joined, commonType? ((deciding parts).map type) = some joined := by
    rw [exists_commonType?]
    simp only [List.forall_mem_map, mem_deciding, and_imp]
    rfl
  rw [hstackable]
  by_cases hvalues : nonEmpty parts = []
  · refine iff_of_true ?_ ⟨.int, by rw [deciding, hvalues]; rfl⟩
    cases parts with
    | nil => exact ⟨_, rfl⟩
    | cons p rest => exact ⟨_, stack_of_empty hvalues⟩
  · constructor
    · rintro ⟨c, hc⟩
      obtain ⟨joined, hjoined, _⟩ :=
        Option.map_eq_some_iff.mp (stack_eq_ok hvalues |>.mp hc).1
      exact ⟨joined, hjoined⟩
    · rintro ⟨joined, hjoined⟩
      obtain ⟨c, hc, _⟩ := exists_stack hvalues (Option.map_eq_some_iff.mpr ⟨joined, hjoined, rfl⟩)
      exact ⟨c, hc⟩

theorem mem_nonEmpty {parts : List Column} {p : Column} (hp : p ∈ parts) {v : Cell}
    (hv : v ∈ p.cells) : p ∈ nonEmpty parts := by
  refine List.mem_filter.mpr ⟨hp, bne_iff_ne.mpr ?_⟩
  rw [← length_cells]
  exact fun hnone => List.ne_nil_of_mem hv (List.eq_nil_of_length_eq_zero hnone)

/-- The cells of a part are taken over into the stack. -/
theorem takenOver_stack {parts : List Column} {c p : Column} (h : stack parts = .ok c)
    (hp : p ∈ parts) {v : Cell} (hv : v ∈ p.cells) :
    v.TakenOver parts c.type (v.promote c.type) := by
  have hvalues := mem_nonEmpty hp hv
  have htype := type_of_mem_cells hv
  have hstack := ((stack_eq_ok (List.ne_nil_of_mem hvalues)).mp h).1
  rcases part_of_stackedType? hstack hvalues with hsame | ⟨hmissing, hstr⟩ | ⟨hfloat, hnumber⟩
  · rw [← hsame, ← htype, v.promote_self]
    exact .same rfl
  · rw [hstr]
    cases p with
    | floats xs =>
        obtain ⟨x, hx, rfl⟩ := List.mem_map.mp hv
        have hnan : x.isNaN = true :=
          List.all_eq_true.mp (Bool.and_eq_true_iff.mp hmissing).2 x hx
        have htext : Cell.promote .str (.float x) = .str "NaN" := by
          show Cell.str (Decimal.Layout.cell.write x) = _
          rw [Decimal.Layout.write, if_pos hnan]
        rw [htext]
        exact .nan rfl hnan ⟨_, hp, hmissing⟩
    | ints xs | bools xs | strs xs => cases hmissing
  · rw [hfloat]
    rcases hnumber with ⟨hint, q, hq, hqtype⟩ | ⟨hbool, q, hq, hqmissing⟩
    · cases v with
      | int x => exact .int rfl ⟨q, (List.mem_filter.mp hq).1, hqtype⟩
      | float x | bool x | str x =>
          rw [hint] at htype
          cases htype
    · cases v with
      | bool b => exact .bool rfl ⟨q, (List.mem_filter.mp hq).1, hqmissing⟩
      | int x | float x | str x =>
          rw [hbool] at htype
          cases htype

end Column

namespace Table

variable {tables : List Table} {t : Table}

theorem sameNames_iff {a b : Table} :
    a.sameNames b = true ↔ ∀ name, name ∈ a.names ↔ name ∈ b.names := by
  simp only [sameNames, Bool.and_eq_true, List.all_eq_true, has_iff]
  exact ⟨fun h name => ⟨h.1 name, h.2 name⟩,
    fun h => ⟨fun name => (h name).mp, fun name => (h name).mpr⟩⟩

/-- Tables have a stack exactly if they have the same names and all columns do. -/
theorem exists_stack_iff (hne : tables ≠ []) :
    (∃ t, stack tables = .ok t) ↔
      (∀ u ∈ tables, ∀ u' ∈ tables, ∀ name, name ∈ u.names ↔ name ∈ u'.names) ∧
        ∀ name, Column.Stackable (tables.filterMap fun u => u.find? name) := by
  obtain ⟨first, rest, rfl⟩ := List.exists_cons_of_ne_nil hne
  have hlike : rest.find? (fun u => !first.sameNames u) = none ↔
      ∀ u ∈ first :: rest, ∀ u' ∈ first :: rest, ∀ name, name ∈ u.names ↔ name ∈ u'.names := by
    simp only [List.find?_eq_none, Bool.not_eq_true', Bool.not_eq_false, sameNames_iff]
    constructor
    · intro h u hu u' hu' name
      have hfirst : ∀ w ∈ first :: rest, name ∈ first.names ↔ name ∈ w.names :=
        List.forall_mem_cons.mpr ⟨Iff.rfl, fun w hw => h w hw name⟩
      exact (hfirst u hu).symm.trans (hfirst u' hu')
    · intro h u hu
      exact h first List.mem_cons_self u (List.mem_cons_of_mem _ hu)
  have hcolumns : (∃ columns, first.names.mapM (stackColumn (first :: rest)) = .ok columns) ↔
      ∀ name ∈ first.names, Column.Stackable ((first :: rest).filterMap fun u => u.find? name) := by
    simp only [mapM_succeeds, stackColumn, ← Column.exists_stack_iff, map_eq_ok]
    refine forall₂_congr fun name _ => ?_
    exact ⟨fun ⟨_, c, hc, _⟩ => ⟨c, hc⟩, fun ⟨c, hc⟩ => ⟨_, c, hc, rfl⟩⟩
  rw [← hlike, stack]
  cases hfind : rest.find? fun u => !first.sameNames u with
  | some u => simp
  | none =>
      have hsame := hlike.mp hfind
      have hall : (∀ name ∈ first.names,
          Column.Stackable ((first :: rest).filterMap fun u => u.find? name)) ↔
            ∀ name, Column.Stackable ((first :: rest).filterMap fun u => u.find? name) := by
        refine ⟨fun h name => ?_, fun h name _ => h name⟩
        by_cases hname : name ∈ first.names
        · exact h name hname
        · -- a name that no table has
          have hnone : (first :: rest).filterMap (fun u => u.find? name) = [] := by
            refine List.filterMap_eq_nil_iff.mpr fun u hu => find?_eq_none ?_
            rwa [hsame u hu first List.mem_cons_self name]
          rw [hnone, ← Column.exists_stack_iff]
          exact ⟨_, rfl⟩
      rw [← hall, ← hcolumns]
      cases first.names.mapM (stackColumn (first :: rest)) <;> simp

/-- What a table holds that is a stack of others. -/
structure StackOf (tables : List Table) (t : Table) : Prop where
  wellFormed : t.WellFormed
  names : tables.head?.map names = some t.names
  labels : t.labels = List.range (totalSize rows tables)
  cells : ∀ i u, tables[i]? = some u → ∀ name c, u.find? name = some c →
    ∃ d, t.find? name = some d ∧ ∀ k v, c.get? k = some v →
      ∃ w, d.get? (totalSize rows (tables.take i) + k) = some w ∧
        v.TakenOver (tables.filterMap fun u' => u'.find? name) d.type w

/-- Where the cells of a table are among those of all, one table after another. -/
theorem getElem?_parts (wf : ∀ u ∈ tables, u.Rectangular) {name : String}
    (hname : ∀ u ∈ tables, name ∈ u.names) (f : Cell → Cell) {i : Nat} {u : Table}
    (hu : tables[i]? = some u) {c : Column} (hc : u.find? name = some c) {k : Nat} {v : Cell}
    (hv : c.get? k = some v) :
    ((tables.filterMap fun u => u.find? name).flatMap fun p => p.cells.map f)[
      totalSize rows (tables.take i) + k]? = some (f v) := by
  induction tables generalizing i with
  | nil => cases hu
  | cons first rest ih =>
      obtain ⟨hfirst, hrest⟩ := List.forall_mem_cons.mp wf
      obtain ⟨hhas, hall⟩ := List.forall_mem_cons.mp hname
      obtain ⟨p, hp⟩ := exists_find?_of_mem hhas
      have hlength : (p.cells.map f).length = first.rows := by
        rw [List.length_map, Column.length_cells]
        exact hfirst _ (mem_of_find? hp)
      rw [List.filterMap_cons, hp, List.flatMap_cons]
      cases i with
      | zero =>
          cases hu
          cases hc.symm.trans hp
          have hcell : (c.cells.map f)[k]? = some (f v) := by
            rw [List.getElem?_map, show c.cells[k]? = some v from hv, Option.map_some]
          have hk : k < (c.cells.map f).length := (List.getElem?_eq_some_iff.mp hcell).1
          rw [List.take_zero, totalSize, Nat.zero_add, List.getElem?_append_left hk, hcell]
      | succ i =>
          have hlater := ih hrest hall hu
          rw [List.take_succ_cons, totalSize, Nat.add_assoc, List.getElem?_append_right (by omega),
            hlength, Nat.add_sub_cancel_left]
          exact hlater

theorem stackOf_stack (wf : ∀ u ∈ tables, u.WellFormed) (hne : tables ≠ [])
    (h : stack tables = .ok t) : StackOf tables t := by
  have hsame := ((exists_stack_iff hne).mp ⟨t, h⟩).1
  obtain ⟨first, rest, rfl⟩ := List.exists_cons_of_ne_nil hne
  obtain ⟨_, hcolumns, hlabels⟩ := stack_cons h
  have hnames : t.names = first.names := by
    unfold stackColumn at hcolumns
    exact map_fst_of_mapM hcolumns
  refine ⟨wellFormed_stack wf h, congrArg some hnames.symm, hlabels, ?_⟩
  intro i u hu name c hc
  have hmem := List.mem_of_getElem? hu
  have hname : name ∈ u.names := mem_names_iff.mpr ⟨c, hc⟩
  have hall : ∀ w ∈ first :: rest, name ∈ w.names :=
    fun w hw => (hsame u hmem w hw name).mp hname
  have htname : name ∈ t.names := hnames ▸ hall first List.mem_cons_self
  obtain ⟨d, hd⟩ := exists_find?_of_mem htname
  refine ⟨d, hd, fun k v hv => ?_⟩
  have hstack : Column.stack ((first :: rest).filterMap fun u => u.find? name) = .ok d := by
    obtain ⟨other, _, hother⟩ := mem_of_mapM hcolumns (mem_of_find? hd)
    obtain ⟨e, he, hpair⟩ := map_eq_ok.mp hother
    cases hpair
    exact he
  have hpart : c ∈ (first :: rest).filterMap fun u => u.find? name :=
    List.mem_filterMap.mpr ⟨u, hmem, hc⟩
  have hcell : v ∈ c.cells := List.mem_of_getElem? hv
  have hvalues := List.ne_nil_of_mem (Column.mem_nonEmpty hpart hcell)
  refine ⟨_, ?_, Column.takenOver_stack hstack hpart hcell⟩
  rw [Column.get?, ((Column.stack_eq_ok hvalues).mp hstack).2]
  exact getElem?_parts (fun w hw => (wf w hw).lengths) hall _ hu hc hv

end Table

/-- Stacking loses nothing. Tables have a stack exactly if their names are the same and
if, under every name, the parts that have values and are not missing have one type or
hold numbers. It has the columns of the first table, as many rows as all tables
together, and in their places the cells of every table. -/
theorem Table.stack_rows {tables : List Table} (hne : tables ≠ [])
    (wf : ∀ u ∈ tables, u.WellFormed) :
    ((∃ t, stack tables = .ok t) ↔
      (∀ u ∈ tables, ∀ u' ∈ tables, ∀ name, name ∈ u.names ↔ name ∈ u'.names) ∧
        ∀ name, Column.Stackable (tables.filterMap fun u => u.find? name)) ∧
    ∀ t, stack tables = .ok t → StackOf tables t :=
  ⟨exists_stack_iff hne, fun _ h => stackOf_stack wf hne h⟩

/-- Truth values and a missing part of the same name, in another place. -/
theorem Table.stack_rows_missing :
    ∃ t, stack [⟨[("a", .ints [1]), ("b", .bools [true])], [4]⟩,
        ⟨[("b", .floats [0.0 / 0.0]), ("a", .ints [2])], [9]⟩] = .ok t ∧
      StackOf [⟨[("a", .ints [1]), ("b", .bools [true])], [4]⟩,
        ⟨[("b", .floats [0.0 / 0.0]), ("a", .ints [2])], [9]⟩] t ∧
      t = ⟨[("a", .ints [1, 2]), ("b", .floats [1.0, 0.0 / 0.0])], [0, 1]⟩ := by
  have hstack : stack [⟨[("a", .ints [1]), ("b", .bools [true])], [4]⟩,
      ⟨[("b", .floats [0.0 / 0.0]), ("a", .ints [2])], [9]⟩] =
        .ok ⟨[("a", .ints [1, 2]), ("b", .floats [1.0, 0.0 / 0.0])], [0, 1]⟩ := by decide +kernel
  refine ⟨_, hstack, (Table.stack_rows (by decide) ?_).2 _ hstack, rfl⟩
  refine List.forall_mem_cons.mpr ⟨⟨by decide, by decide⟩, ?_⟩
  exact List.forall_mem_singleton.mpr ⟨by decide, by decide⟩

end TableVerbs
