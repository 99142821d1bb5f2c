import Mathlib
import TableVerbs.Proofs.NegatedQueries
import TableVerbs.Proofs.StableSorting

/-!
# Comparisons follow the order

Expressions compare cells in a way of their own. Numbers of different types meet as
floats there, a text compares with texts only, and a NaN with nothing. Sorting knows
neither failure nor exception. Where both have a say, between values of one type of
which none is a NaN, they say the same, and this is a matter of floats only: they
compare as their order says unless one of them is a NaN.

The comparisons among themselves are tied together by how two cells relate, which is
asked once and turns around with the operands. So a column in order has all values
below a bound in front of the others, and a query for them keeps a prefix.
-/

namespace TableVerbs

namespace Number

/-- Floats compare as their order says, and a NaN not at all. -/
theorem compare?_eq (x y : Float) :
    compare? x y = if x.isNaN || y.isNaN then none else some (order x y) := by
  have hmodel : ∀ {z : Float}, z.isNaN = true → z.toModel.unpack = .notANumber :=
    Float.Model.UnpackedFloat.isNaN_iff.mp
  cases hx : x.isNaN with
  | true =>
      simp only [compare?, lt_iff_unpack, beq_iff_unpack, hmodel hx]
      cases y.toModel.unpack <;> rfl
  | false =>
      cases hy : y.isNaN with
      | true =>
          simp only [compare?, lt_iff_unpack, beq_iff_unpack, hmodel hy]
          cases x.toModel.unpack <;> rfl
      | false =>
          rw [compare?_eq_orderPlaces hx hy, order_eq_orderPlaces]
          rfl

theorem compare?_swap (x y : Float) : compare? y x = (compare? x y).map Ordering.swap := by
  rw [compare?_eq, compare?_eq, Bool.or_comm, @Std.OrientedCmp.eq_swap _ order _ y x]
  split <;> rfl

end Number

/-! ## Pairs of cells -/

namespace Cell

/-- Values of one type relate as they are ordered. -/
theorem relation?_of_type {a b : Cell} (htype : a.type = b.type) (ha : a.isNaN = false)
    (hb : b.isNaN = false) : a.relation? b = some (some (order a b)) := by
  cases a with
  | float x =>
      cases b with
      | float y =>
          have hx : x.isNaN = false := ha
          have hy : y.isNaN = false := hb
          show some (Number.compare? x y) = some (some (Number.order x y))
          rw [Number.compare?_eq, hx, hy]
          rfl
      | int y | bool y | str y => cases htype
  | int x | bool x | str x => cases b <;> first | rfl | cases htype

/-- Two cells relate both ways or not at all. -/
theorem relation?_swap (a b : Cell) :
    b.relation? a = (a.relation? b).map fun o => o.map Ordering.swap := by
  have hfloats : ∀ x y, some (Number.compare? y x) =
      (some (Number.compare? x y)).map fun o => o.map Ordering.swap :=
    fun x y => congrArg some (Number.compare?_swap x y)
  cases a with
  | int x =>
      cases b with
      | int y => exact congrArg (some <| some ·) Std.OrientedCmp.eq_swap
      | float y | bool y => exact hfloats _ _
      | str y => rfl
  | float x =>
      cases b with
      | int y | float y | bool y => exact hfloats _ _
      | str y => rfl
  | bool x =>
      cases b with
      | bool y => exact congrArg (some <| some ·) Std.OrientedCmp.eq_swap
      | int y | float y => exact hfloats _ _
      | str y => rfl
  | str x =>
      cases b with
      | str y => exact congrArg (some <| some ·) Std.OrientedCmp.eq_swap
      | int y | float y | bool y => rfl

end Cell

namespace Comparison

/-- The comparisons that ask for more than equality. -/
def orderings : List Comparison := [.lt, .le, .gt, .ge]

section

variable {a b : Cell}

theorem apply_related {o : Option Ordering} (h : a.relation? b = some o) (op : Comparison) :
    (BinaryOp.comparison op).apply a b = .ok (.bool (op.holds o)) := by
  simp only [BinaryOp.apply, Comparison.apply, h]
  rfl

theorem apply_unrelated (h : a.relation? b = none) {op : Comparison} (hop : op ∈ orderings) :
    (BinaryOp.comparison op).apply a b = .error (BinaryOp.refuse (.comparison op) a b) := by
  simp only [BinaryOp.apply, Comparison.apply, h]
  cases op with
  | eq | ne => simp [orderings] at hop
  | lt | le | gt | ge => rfl

/-- Between values of one type, none of them a NaN, the comparisons say how they are
ordered. -/
theorem apply_of_type (htype : a.type = b.type) (ha : a.isNaN = false) (hb : b.isNaN = false)
    (op : Comparison) :
    (BinaryOp.comparison op).apply a b = .ok (.bool (op.holds (some (Cell.order a b)))) :=
  apply_related (Cell.relation?_of_type htype ha hb) op

end

theorem apply_eq_ne (a b : Cell) :
    ∃ e, (BinaryOp.comparison .eq).apply a b = .ok (.bool e) ∧
      (BinaryOp.comparison .ne).apply a b = .ok (.bool !e) := by
  cases h : a.relation? b with
  | none =>
      refine ⟨false, ?_, ?_⟩ <;> simp only [BinaryOp.apply, Comparison.apply, h] <;> rfl
  | some o =>
      refine ⟨Comparison.eq.holds o, apply_related h .eq, ?_⟩
      rw [apply_related h]
      obtain _ | _ | _ | _ := o <;> rfl

theorem apply_orderings (a b : Cell) :
    (∀ op ∈ orderings, (BinaryOp.comparison op).apply a b =
      .error (BinaryOp.refuse (.comparison op) a b)) ∨
    ∀ op ∈ orderings, ∃ h, (BinaryOp.comparison op).apply a b = .ok (.bool h) := by
  cases h : a.relation? b with
  | none => exact .inl fun op hop => apply_unrelated h hop
  | some o => exact .inr fun op _ => ⟨op.holds o, apply_related h op⟩

/-- A `<` is a `>` turned around. -/
theorem apply_lt_iff {a b v : Cell} :
    (BinaryOp.comparison .lt).apply a b = .ok v ↔
      (BinaryOp.comparison .gt).apply b a = .ok v := by
  have hswap := Cell.relation?_swap a b
  cases h : a.relation? b with
  | none =>
      rw [h] at hswap
      rw [apply_unrelated h (by decide), apply_unrelated hswap (by decide)]
      exact iff_of_false (by rintro ⟨⟩) (by rintro ⟨⟩)
  | some o =>
      rw [h] at hswap
      rw [apply_related h, apply_related hswap]
      obtain _ | _ | _ | _ := o <;> exact Iff.rfl

/-- A `<=` is a `<` or an `==`. -/
theorem apply_le_iff {a b v : Cell} :
    (BinaryOp.comparison .le).apply a b = .ok v ↔
      ∃ p q, (BinaryOp.comparison .lt).apply a b = .ok (.bool p) ∧
        (BinaryOp.comparison .eq).apply a b = .ok (.bool q) ∧ v = .bool (p || q) := by
  cases h : a.relation? b with
  | none =>
      rw [apply_unrelated h (by decide), apply_unrelated h (by decide)]
      exact iff_of_false (by rintro ⟨⟩) (by rintro ⟨_, _, ⟨⟩, _⟩)
  | some o =>
      have hle : Comparison.le.holds o = (Comparison.lt.holds o || Comparison.eq.holds o) := by
        obtain _ | _ | _ | _ := o <;> rfl
      simp only [apply_related h, hle]
      constructor
      · intro hv
        cases hv
        exact ⟨_, _, rfl, rfl, rfl⟩
      · rintro ⟨p, q, hp, hq, rfl⟩
        cases hp
        cases hq
        rfl

end Comparison

/-! ## Columns in order -/

/-- A mask in which no row is marked behind one that is not marks a prefix. -/
theorem exists_prefix {mask : List Bool} (h : mask.Pairwise fun a b => b = true → a = true) :
    ∃ k ≤ mask.length, mask = List.replicate k true ++ List.replicate (mask.length - k) false := by
  induction mask with
  | nil => exact ⟨0, Nat.le_refl 0, rfl⟩
  | cons first rest ih =>
      obtain ⟨hfirst, hrest⟩ := List.pairwise_cons.mp h
      cases first with
      | true =>
          obtain ⟨k, hk, heq⟩ := ih hrest
          refine ⟨k + 1, Nat.succ_le_succ hk, ?_⟩
          rw [List.length_cons, Nat.add_sub_add_right, List.replicate_succ, List.cons_append, ← heq]
      | false =>
          have hnone : ∀ b ∈ rest, b = false := fun b hb =>
            Bool.eq_false_iff.mpr fun htrue => Bool.false_ne_true (hfirst b hb htrue)
          refine ⟨0, Nat.zero_le _, ?_⟩
          rw [List.eq_replicate_of_mem hnone, List.length_cons, List.length_replicate]
          rfl

theorem Table.reshape_prefix {t : Table} (hlen : t.Rectangular) {k : Nat} (h : k ≤ t.rows) :
    t.reshape (marked (List.replicate k true ++ List.replicate (t.rows - k) false)) =
      t.head k := by
  have hprefix : marked (List.replicate k true ++ List.replicate (t.rows - k) false)
      (List.range t.rows) = List.range (min k t.rows) := by
    rw [← List.take_range, ← marked_prefix (by rwa [List.length_range]), List.length_range]
  rw [reshape_marked hlen, hprefix]
  rfl

/-- Rows sorted by a column have its values in ascending order. -/
theorem Sorts.cells_ascending {c : Column} {n : Nat} {positions : List Nat}
    (h : Sorts (keyAt [c]) n positions) :
    (c.take positions).cells.Pairwise fun a b => (Cell.order a b).isLE := by
  have hkey : ∀ {i v}, c.cells[i]? = some v → keyAt [c] i = [v] := by
    intro i v hv
    rw [keyAt, List.filterMap_cons, Column.get?, hv]
    rfl
  have horder : ∀ a b, Cell.orderKeys [a] [b] = Cell.order a b := fun _ _ => Ordering.then_eq
  rw [Column.cells_take, TableVerbs.pick, List.pairwise_filterMap]
  refine h.ordered.imp ?_
  rintro i j hbefore a ha b hb
  rw [Precedes, sameKey, hkey ha, hkey hb, horder] at hbefore
  rcases hbefore with hless | ⟨hsame, _⟩
  · rw [hless]
    rfl
  · rw [beq_iff_eq.mp hsame]
    rfl

/-- A column compared to a cell, row by row. -/
theorem Comparison.onDatum_column {c : Column} {v : Cell} {op : Comparison} {holds : Cell → Bool}
    (h : ∀ a ∈ c.cells, (BinaryOp.comparison op).apply a v = .ok (.bool (holds a))) :
    (BinaryOp.comparison op).onDatum (.column c) (.cell v) =
      .ok (.column (.bools (c.cells.map holds))) := by
  have hcells : c.cells.mapM (fun a => (BinaryOp.comparison op).apply a v) =
      .ok (c.cells.map fun a => .bool (holds a)) := mapM_eq_map h
  rw [BinaryOp.onDatum, Column.mapCells_eq, hcells]
  show ((Column.collect .bool (c.cells.map fun a => .bool (holds a))).map Datum.column) = _
  rw [Column.collect_bools]
  rfl

/-- What is below a cell of its own type, if that is not a NaN; below a NaN is nothing. -/
def Cell.below (c a : Cell) : Bool := !c.isNaN && (order a c).isLT

theorem Comparison.apply_lt {a c : Cell} (htype : a.type = c.type) (ha : a.isNaN = false) :
    (BinaryOp.comparison .lt).apply a c = .ok (.bool (c.below a)) := by
  rw [Cell.below]
  cases hc : c.isNaN with
  | false =>
      rw [apply_of_type htype ha hc]
      cases Cell.order a c <;> rfl
  | true =>
      -- only a float is a NaN, and so both are floats
      cases c with
      | int y | bool y | str y => cases hc
      | float y =>
          cases a with
          | int x | bool x | str x => cases htype
          | float x =>
              have hy : y.isNaN = true := hc
              have hnone : Cell.relation? (.float x) (.float y) = some none := by
                show some (Number.compare? x y) = some none
                rw [Number.compare?_eq, hy, Bool.or_true, if_pos rfl]
              exact apply_related hnone .lt

theorem Cell.below_of_le {a b c : Cell} (h : (order a b).isLE) (hb : c.below b = true) :
    c.below a = true := by
  rw [below, Bool.and_eq_true, Ordering.isLT_iff_eq_lt] at hb ⊢
  exact ⟨hb.1, Std.TransCmp.lt_of_isLE_of_lt h hb.2⟩

/-- Rows sorted by a column without NaNs have the ones below a bound in front. -/
theorem Sorts.exists_below {col : Column} {n : Nat} {positions : List Nat}
    (h : Sorts (keyAt [col]) n positions) (hlen : col.length = n) (c : Cell) :
    ∃ k ≤ n, (col.take positions).cells.map c.below =
      List.replicate k true ++ List.replicate (n - k) false := by
  have hmask : ((col.take positions).cells.map c.below).Pairwise fun a b => b = true → a = true :=
    List.pairwise_map.mpr (h.cells_ascending.imp Cell.below_of_le)
  have hrows : ((col.take positions).cells.map c.below).length = n := by
    rw [List.length_map, Column.length_cells, Column.length_take (hlen.symm ▸ h.bounds), h.length]
  have hprefix := exists_prefix hmask
  rwa [hrows] at hprefix

/-- Picked rows are marked as their values lie below the constant or not. -/
theorem Expr.eval_below {t : Table} {scope : Scope} {name : String} {col : Column} {c : Cell}
    {y : Expr} (hcol : t.find? name = some col) (hnan : ∀ a ∈ col.cells, a.isNaN = false)
    (htype : c.type = col.type) (hy : ∀ t, y.eval t scope = .ok (.cell c))
    (positions : List Nat) :
    (Expr.binary (.comparison .lt) (.column name) y).eval (t.gather positions) scope =
      .ok (.column (.bools ((col.take positions).cells.map c.below))) := by
  have hname : (Expr.column name).eval (t.gather positions) scope =
      .ok (.column (col.take positions)) := by
    rw [Expr.eval, Table.find?_gather, hcol]
    rfl
  refine eval_binary_eq_ok.mpr ⟨_, _, hname, hy _, Comparison.onDatum_column fun a ha => ?_⟩
  rw [Column.cells_take] at ha
  have hmem := mem_of_mem_pick ha
  exact Comparison.apply_lt ((Column.type_of_mem_cells hmem).trans htype.symm) (hnan a hmem)

/-- A query whose condition marks a prefix is a head. -/
theorem Dataset.Regular.query_prefix {d : Dataset} (hd : d.Regular) {scope : Scope}
    {condition : String} {k : Nat} (hk : k ≤ d.table.rows)
    (h : scope.eval condition d.table = .ok (.column (.bools
      (List.replicate k true ++ List.replicate (d.table.rows - k) false)))) :
    d.query scope condition = .ok (d.withTable (d.table.head k)) := by
  refine query_eq_ok.mpr ⟨_, _, h, rfl, ?_, ?_⟩
  · rw [List.length_append, List.length_replicate, List.length_replicate]
    omega
  · rw [Table.reshape_prefix hd.rectangular hk]
    exact hd.retag_eq Table.names_gather

/-- The comparisons of expressions agree with the order that rows are sorted in, and with
each other. Values of one type, none of them a NaN, compare as they are ordered. Of any
two values, `==` and `!=` always have opposite answers, the other four comparisons fail
together or have answers together, `<` is `>` turned around and `<=` is `<` or `==`. So
when a table is arranged by one of its columns, and there is no NaN in it, the rows where
it is below a constant of its type are the first ones, and a query for them is a head. -/
theorem Session.comparisons_ordered (s : Session) (defaults : Options) {d : Dataset}
    (hd : d.Regular) :
    (∀ a b : Cell, a.type = b.type → a.isNaN = false → b.isNaN = false →
      (BinaryOp.comparison .eq).apply a b = .ok (.bool (Cell.order a b).isEq) ∧
      (BinaryOp.comparison .lt).apply a b = .ok (.bool (Cell.order a b).isLT) ∧
      (BinaryOp.comparison .le).apply a b = .ok (.bool (Cell.order a b).isLE) ∧
      (BinaryOp.comparison .gt).apply a b = .ok (.bool (Cell.order a b).isGT) ∧
      (BinaryOp.comparison .ge).apply a b = .ok (.bool (Cell.order a b).isGE)) ∧
    (∀ a b : Cell,
      (∃ e, (BinaryOp.comparison .eq).apply a b = .ok (.bool e) ∧
        (BinaryOp.comparison .ne).apply a b = .ok (.bool !e)) ∧
      ((∀ op ∈ Comparison.orderings, (BinaryOp.comparison op).apply a b =
          .error (BinaryOp.refuse (.comparison op) a b)) ∨
        ∀ op ∈ Comparison.orderings, ∃ h, (BinaryOp.comparison op).apply a b = .ok (.bool h)) ∧
      (∀ v, (BinaryOp.comparison .lt).apply a b = .ok v ↔
        (BinaryOp.comparison .gt).apply b a = .ok v) ∧
      ∀ v, (BinaryOp.comparison .le).apply a b = .ok v ↔
        ∃ p q, (BinaryOp.comparison .lt).apply a b = .ok (.bool p) ∧
          (BinaryOp.comparison .eq).apply a b = .ok (.bool q) ∧ v = .bool (p || q)) ∧
    ∀ (name : String) (col : Column) (key : Argument) (c : Cell) (y : Expr),
      d.table.find? name = some col → (∀ a ∈ col.cells, a.isNaN = false) →
      key.evalColumn d.table s.scope = .ok col →
      c.type = col.type → (∀ t, y.eval t s.scope = .ok (.cell c)) →
      ∃ arranged, (s.apply defaults d (.arrange [key])).outcome = .ok (.data arranged) ∧
        ∃ k ≤ d.table.rows,
          (Expr.binary (.comparison .lt) (.column name) y).eval arranged.table s.scope =
            .ok (.column (.bools
              (List.replicate k true ++ List.replicate (d.table.rows - k) false))) ∧
          ∀ condition,
            Expr.parse (filled condition) =
              .ok (.binary (.comparison .lt) (.column name) y) →
            (s.apply defaults arranged (.query condition)).outcome =
              .ok (.data (arranged.withTable (arranged.table.head k))) := by
  refine ⟨?_, ?_, ?_⟩
  · intro a b htype ha hb
    have happly := Comparison.apply_of_type htype ha hb
    rw [happly, happly, happly, happly, happly]
    cases Cell.order a b <;> exact ⟨rfl, rfl, rfl, rfl, rfl⟩
  · intro a b
    exact ⟨Comparison.apply_eq_ne a b, Comparison.apply_orderings a b,
      fun _ => Comparison.apply_lt_iff, fun _ => Comparison.apply_le_iff⟩
  · intro name col key c y hcol hnan hkey htype hy
    have hkeys : [key].mapM (fun a => a.evalColumn d.table s.scope) = .ok [col] :=
      mapM_eq_ok.mpr (.cons hkey .nil)
    -- which way the rows are sorted does not matter, there is one order only
    obtain ⟨positions, hsorts⟩ : ∃ positions, Sorts (keyAt [col]) d.table.rows positions :=
      ⟨_, Sorts.mergeSort _ _⟩
    have harranged := hd.arrange_eq_ok.mpr ⟨[col], positions, hkeys, hsorts, rfl⟩
    obtain ⟨k, hk, hmask⟩ := hsorts.exists_below (Argument.evalColumn_length hkey) c
    have heval := Expr.eval_below hcol hnan htype hy positions
    rw [hmask] at heval
    have hrows : (d.table.gather positions).rows = d.table.rows := Table.rows_reordered hsorts.perm
    refine ⟨_, congrArg (Except.map Output.data) harranged, k, hk, ?_, fun condition hread => ?_⟩
    · rw [Dataset.table_withTable]
      exact heval
    · have hcondition : s.scope.eval condition (d.table.gather positions) =
          .ok (.column (.bools
            (List.replicate k true ++ List.replicate (d.table.rows - k) false))) := by
        rw [Scope.eval, ← filled, hread]
        exact heval
      have hquery := @Dataset.Regular.query_prefix _ (hd.gather positions) s.scope condition k
      rw [Dataset.table_withTable, hrows] at hquery
      rw [Dataset.table_withTable]
      exact congrArg (Except.map Output.data) (hquery hk hcondition)

/-- Of four labelled rows arranged by a column of integers, the ones below -1. -/
theorem Session.comparisons_ordered_negative :
    ∃ arranged, (Session.apply ⟨none, Scope.empty, Draws.first⟩ Options.standard
        (.grouped ⟨⟨[("x", .ints [2, -1, -3, -2])], [4, 5, 6, 7]⟩, ["x"]⟩)
        (.arrange [.text "x"])).outcome = .ok (.data arranged) ∧
      ∃ k ≤ 4, (Session.apply ⟨none, Scope.empty, Draws.first⟩ Options.standard arranged
          (.query "x < -1")).outcome = .ok (.data (arranged.withTable (arranged.table.head k))) := by
  have hregular : Dataset.Regular
      (.grouped ⟨⟨[("x", .ints [2, -1, -3, -2])], [4, 5, 6, 7]⟩, ["x"]⟩) :=
    Dataset.WellFormed.regular ⟨⟨by decide, by decide⟩, by decide, by decide, by decide⟩
  have hkey : (Argument.text "x").evalColumn
      ⟨[("x", .ints [2, -1, -3, -2])], [4, 5, 6, 7]⟩ Scope.empty = .ok (.ints [2, -1, -3, -2]) := by
    cbv
  have hread : Expr.parse (filled "x < -1") =
      .ok (.binary (.comparison .lt) (.column "x") (.unary .neg (.lit (.int 1)))) := by cbv
  have hbound : ∀ t, (Expr.unary .neg (.lit (.int 1))).eval t Scope.empty =
      .ok (.cell (.int (-1))) := by
    intro t
    rw [Expr.eval, Expr.eval]
    rfl
  obtain ⟨arranged, harranged, k, hk, _, hquery⟩ :=
    (Session.comparisons_ordered ⟨none, Scope.empty, Draws.first⟩ Options.standard
      hregular).2.2 "x" _ _ (.int (-1)) _ rfl (by decide) hkey rfl hbound
  exact ⟨arranged, harranged, k, hk, hquery "x < -1" hread⟩

end TableVerbs
