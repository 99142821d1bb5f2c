import TableVerbs.Expr.Eval
import TableVerbs.Proofs.Rectangular
import TableVerbs.Proofs.RowLocal

/-!
# Expressions are evaluated row by row

An operator on columns is an operator on cells, repeated. So an expression
means the same on some of the rows as on all of them, once the picked rows are
seen as a table of their own: a column becomes the picked part of it, and a
cell stays what it is, since it stands in every row.

Two things look beyond the row. The number of rows is one, and changes with
what is picked. The other is hidden in the columns: a power of integers is an
integer or a float depending on the row, and one float among them turns the
column into one of floats. Neither matters as long as the picks only reorder
the rows.
-/

namespace TableVerbs

namespace Datum

/-- The value on picked rows, given the value on all. -/
def take (positions : List Nat) : Datum → Datum
  | .cell v => .cell v
  | .column c => .column (c.take positions)

/-- A datum that can stand in a table of `rows` rows. -/
def Fits (rows : Nat) : Datum → Prop
  | .cell _ => True
  | .column c => c.length = rows

end Datum

section

variable {picks : List Nat → Prop} {n : Nat}

/-- What a computation of a datum has to satisfy to be local to rows. -/
abbrev RowLocalDatum (picks : List Nat → Prop) (n : Nat) : Except Error Datum →
    (List Nat → Except Error Datum) → Prop :=
  RowLocal picks (Datum.Fits n) Datum.take

/-- A cell computed from cells alone does not depend on the rows. -/
theorem rowLocal_cell (hp : ∃ p, picks p) (result : Except Error Cell) :
    RowLocalDatum picks n (result.map .cell) fun _ => result.map .cell := by
  cases result with
  | error e => exact .error hp
  | ok v => exact .ok trivial

theorem Column.mapCells_eq (otherwise : CellType) (f : Cell → Except Error Cell) (c : Column) :
    c.mapCells otherwise f = (c.cells.mapM f).bind (Column.collect otherwise) := by
  rw [mapCells]
  cases c.cells.mapM f <;> rfl

/-- A function on cells, applied to a column. -/
theorem rowLocal_mapCells (hc : Covers picks n) (hn : 0 < n) {f : Cell → Except Error Cell}
    {c : Column} (hlen : c.length = n) (h : Typed f ∨ ∀ p, picks p → p.Perm (List.range n))
    (otherwise : CellType) :
    RowLocalDatum picks n ((c.mapCells otherwise f).map .column)
      fun p => ((c.take p).mapCells otherwise f).map .column := by
  simp only [Column.mapCells_eq, Column.cells_take]
  refine (rowLocal_mapM_collect hc hn (c.length_cells.trans hlen) ?_ otherwise).map
    (fun _ h => h) fun _ _ => rfl
  refine h.imp_left fun ⟨result, htype⟩ => ⟨result c.type, fun x hx v hv => ?_⟩
  rw [htype x v hv, Column.type_of_mem_cells hx]

/-! ## Operators -/

theorem UnaryOp.rowLocal (hc : Covers picks n) (hn : 0 < n) (op : UnaryOp) {a : Datum}
    (ha : a.Fits n) : RowLocalDatum picks n (op.onDatum a) fun p => op.onDatum (a.take p) := by
  cases a with
  | cell v => exact rowLocal_cell (hc.exists_pick hn) (op.apply v)
  | column c =>
      simp only [onDatum, Datum.take, Column.type_take]
      exact rowLocal_mapCells hc hn ha (.inl op.typed) c.type

theorem BinaryOp.onColumns_eq (op : BinaryOp) {c d : Column} (h : c.length = d.length) :
    op.onDatum (.column c) (.column d) =
      (((c.cells.zip d.cells).mapM fun pair => op.apply pair.1 pair.2).bind
        (Column.collect (op.typeWithoutRows c.type))).map .column := by
  rw [onDatum, if_neg (not_not.mpr h)]
  cases (c.cells.zip d.cells).mapM fun pair => op.apply pair.1 pair.2 with
  | error e => rfl
  | ok cells => rfl

/-- Two columns, joined row by row. -/
theorem BinaryOp.rowLocal_columns (hc : Covers picks n) (hn : 0 < n) {op : BinaryOp}
    (hop : op ≠ .arithmetic .pow ∨ ∀ p, picks p → p.Perm (List.range n)) {c d : Column}
    (hlenc : c.length = n) (hlend : d.length = n) :
    RowLocalDatum picks n (op.onDatum (.column c) (.column d))
      fun p => op.onDatum (.column (c.take p)) (.column (d.take p)) := by
  have hcells : c.cells.length = d.cells.length := by
    rw [Column.length_cells, Column.length_cells, hlenc, hlend]
  have hzip : (c.cells.zip d.cells).length = n := by
    rw [List.length_zip, ← hcells, Nat.min_self, Column.length_cells, hlenc]
  rw [onColumns_eq op (hlenc.trans hlend.symm)]
  refine RowLocal.congr ((rowLocal_mapM_collect hc hn hzip ?_ _).map
    (fun _ h => h) fun _ _ => rfl) fun p hp => ?_
  · refine hop.imp_left fun hpow => ⟨op.resultType c.type d.type, ?_⟩
    rintro ⟨x, y⟩ hxy v hv
    have hx := Column.type_of_mem_cells (List.of_mem_zip hxy).1
    have hy := Column.type_of_mem_cells (List.of_mem_zip hxy).2
    rw [type_apply hpow hv, hx, hy]
  · have hbounds := hc.bounds p hp
    have hpart : (c.take p).length = (d.take p).length := by
      rw [Column.length_take (hlenc ▸ hbounds), Column.length_take (hlend ▸ hbounds)]
    rw [onColumns_eq op hpart, Column.cells_take, Column.cells_take, Column.type_take,
      pick_zip hcells]

theorem BinaryOp.rowLocal (hc : Covers picks n) (hn : 0 < n) {op : BinaryOp}
    (hop : op ≠ .arithmetic .pow ∨ ∀ p, picks p → p.Perm (List.range n)) {a b : Datum}
    (ha : a.Fits n) (hb : b.Fits n) :
    RowLocalDatum picks n (op.onDatum a b) fun p => op.onDatum (a.take p) (b.take p) := by
  cases a with
  | cell x =>
      cases b with
      | cell y => exact rowLocal_cell (hc.exists_pick hn) (op.apply x y)
      | column d =>
          simp only [onDatum, Datum.take, Column.type_take]
          refine rowLocal_mapCells hc hn hb ?_ _
          exact hop.imp_left fun hpow => ⟨op.resultType x.type, fun _ _ h => type_apply hpow h⟩
  | column c =>
      cases b with
      | cell y =>
          simp only [onDatum, Datum.take, Column.type_take]
          refine rowLocal_mapCells hc hn ha ?_ _
          exact hop.imp_left fun hpow => ⟨(op.resultType · y.type), fun _ _ h => type_apply hpow h⟩
      | column d => exact rowLocal_columns hc hn hop ha hb

/-! ## Functions -/

namespace Function

theorem rowLocal_onNumbers (hc : Covers picks n) (hn : 0 < n) (name : String) {f : Cell → Cell}
    (hf : ∃ result : CellType → CellType, ∀ v, (f v).type = result v.type) {a : Datum}
    (ha : a.Fits n) :
    RowLocalDatum picks n (onNumbers name f a) fun p => onNumbers name f (a.take p) := by
  obtain ⟨result, hresult⟩ := hf
  cases a with
  | cell v => exact rowLocal_cell (hc.exists_pick hn) _
  | column c =>
      simp only [onNumbers, Datum.take, Column.type_take]
      exact rowLocal_mapCells hc hn ha (.inl (typed_checked name hresult)) c.type

theorem round_many (a b c : Datum) (rest : List Datum) :
    round (a :: b :: c :: rest) = .error .roundArguments := by
  cases b with
  | cell v => cases v <;> rfl
  | column d => rfl

theorem rowLocal_ofNumber (hc : Covers picks n) (hn : 0 < n) (name : String) {f : Cell → Cell}
    (hf : ∃ result : CellType → CellType, ∀ v, (f v).type = result v.type) {data : List Datum}
    (hdata : ∀ d ∈ data, d.Fits n) :
    RowLocalDatum picks n (ofNumber name f data)
      fun p => ofNumber name f (data.map (Datum.take p)) := by
  match data, hdata with
  | [a], hdata => exact rowLocal_onNumbers hc hn name hf (hdata a List.mem_cons_self)
  | [], _ => exact .error (hc.exists_pick hn)
  | _ :: _ :: _, _ => exact .error (hc.exists_pick hn)

theorem rowLocal_round (hc : Covers picks n) (hn : 0 < n) {data : List Datum}
    (hdata : ∀ d ∈ data, d.Fits n) :
    RowLocalDatum picks n (round data) fun p => round (data.map (Datum.take p)) := by
  have hp := hc.exists_pick hn
  have hto : ∀ places : Int64,
      ∃ result : CellType → CellType, ∀ v, (roundTo places v).type = result v.type :=
    fun places => ⟨fun type => if type = .int ∧ 0 ≤ places then .int else .float,
      type_roundTo places⟩
  -- the places have to be one integer, whatever is rounded
  match data, hdata with
  | [a], hdata => exact rowLocal_onNumbers hc hn _ (hto 0) (hdata a List.mem_cons_self)
  | [a, .cell (.int places)], hdata =>
      exact rowLocal_onNumbers hc hn _ (hto places) (hdata a List.mem_cons_self)
  | [], _ => exact .error hp
  | [_, .cell (.float _)], _ => exact .error hp
  | [_, .cell (.bool _)], _ => exact .error hp
  | [_, .cell (.str _)], _ => exact .error hp
  | [_, .column _], _ => exact .error hp
  | a :: b :: c :: rest, _ =>
      rw [round_many]
      exact RowLocal.congr (.error hp) fun p _ => round_many (a.take p) (b.take p) _ _

/-- The built-in functions are local to rows in all of their arguments. -/
theorem rowLocal_builtin (hc : Covers picks n) (hn : 0 < n) {name : String} {f : Function}
    (hf : builtin? name = some f) {data : List Datum} (hdata : ∀ d ∈ data, d.Fits n) :
    RowLocalDatum picks n (f data) fun p => f (data.map (Datum.take p)) := by
  unfold builtin? at hf
  split at hf
  · cases hf
    refine rowLocal_ofNumber hc hn _ ⟨fun type => if type = .int then .int else .float, ?_⟩ hdata
    exact type_magnitude
  · cases hf
    exact rowLocal_ofNumber hc hn _ ⟨fun _ => .float, type_onFloat _⟩ hdata
  · cases hf
    exact rowLocal_ofNumber hc hn _ ⟨fun _ => .float, type_onFloat _⟩ hdata
  · cases hf
    exact rowLocal_ofNumber hc hn _ ⟨fun _ => .float, type_onFloat _⟩ hdata
  · cases hf
    exact rowLocal_round hc hn hdata
  · cases hf

end Function

/-- Calling a function by name, where the scope has none of that name. On the
picks there may be another number of rows, `rows p`, if nobody asks for it. -/
theorem Scope.rowLocal_call (hc : Covers picks n) (hn : 0 < n) {scope : Scope} {name : String}
    (hscope : name ≠ rowCountName → scope.find? name = none) {rows : List Nat → Nat}
    (hrows : name = rowCountName → ∀ p, picks p → rows p = n) {data : List Datum}
    (hdata : ∀ d ∈ data, d.Fits n) :
    RowLocalDatum picks n (scope.call n name data)
      fun p => scope.call (rows p) name (data.map (Datum.take p)) := by
  have hp := hc.exists_pick hn
  by_cases hname : name = rowCountName
  · simp only [call, if_pos hname]
    cases data with
    | nil =>
        refine RowLocal.congr (.ok trivial) fun p hp => ?_
        rw [List.map_nil, hrows hname p hp]
        rfl
    | cons d rest => exact .error hp
  · simp only [call, if_neg hname, hscope hname, Option.none_or]
    cases hf : Function.builtin? name with
    | none => exact .error hp
    | some f => exact Function.rowLocal_builtin hc hn hf hdata

end

/-! ## Whole expressions -/

mutual

/-- The names that an expression calls. -/
def Expr.calls : Expr → List String
  | .lit _ | .column _ => []
  | .call name args => name :: Expr.callsAll args
  | .unary _ x => x.calls
  | .binary _ x y => x.calls ++ y.calls

/-- The names that some expressions call. -/
def Expr.callsAll : List Expr → List String
  | [] => []
  | x :: xs => x.calls ++ Expr.callsAll xs

end

mutual

/-- The binary operators of an expression. -/
def Expr.operators : Expr → List BinaryOp
  | .lit _ | .column _ => []
  | .call _ args => Expr.operatorsAll args
  | .unary _ x => x.operators
  | .binary op x y => op :: (x.operators ++ y.operators)

/-- The binary operators of some expressions. -/
def Expr.operatorsAll : List Expr → List BinaryOp
  | [] => []
  | x :: xs => x.operators ++ Expr.operatorsAll xs

end

/-- What makes an expression of these calls and operators local to rows: no
function of the scope is called, and neither a power nor the number of rows
occurs, unless every pick is of all rows. -/
structure RowBound (picks : List Nat → Prop) (n : Nat) (scope : Scope) (calls : List String)
    (operators : List BinaryOp) : Prop where
  scope : ∀ name ∈ calls, name ≠ rowCountName → scope.find? name = none
  rows : (.arithmetic .pow ∉ operators ∧ rowCountName ∉ calls) ∨
    ∀ p, picks p → p.Perm (List.range n)

section

variable {picks : List Nat → Prop} {t : Table} {scope : Scope}

theorem RowBound.mono {calls calls' : List String} {operators operators' : List BinaryOp}
    (h : RowBound picks t.rows scope calls operators) (hcalls : calls' ⊆ calls)
    (hops : operators' ⊆ operators) : RowBound picks t.rows scope calls' operators' where
  scope := fun name hname => h.scope name (hcalls hname)
  rows := h.rows.imp_left fun ⟨hpow, hcount⟩ =>
    ⟨fun hmem => hpow (hops hmem), fun hmem => hcount (hcalls hmem)⟩

theorem Expr.eval_unary (op : UnaryOp) (x : Expr) :
    (Expr.unary op x).eval t scope = (x.eval t scope).bind op.onDatum := by
  rw [Expr.eval]
  cases x.eval t scope <;> rfl

theorem Expr.eval_binary (op : BinaryOp) (x y : Expr) :
    (Expr.binary op x y).eval t scope =
      (x.eval t scope).bind fun a => (y.eval t scope).bind fun b => op.onDatum a b := by
  rw [Expr.eval]
  cases x.eval t scope with
  | error e => rfl
  | ok a => cases y.eval t scope <;> rfl

theorem Expr.eval_call {name : String} {args : List Expr} (h : t.has name = false) :
    (Expr.call name args).eval t scope =
      (Expr.evalAll t scope args).bind (scope.call t.rows name) := by
  rw [Expr.eval, h]
  cases Expr.evalAll t scope args <;> rfl

theorem Expr.evalAll_cons (x : Expr) (xs : List Expr) :
    Expr.evalAll t scope (x :: xs) =
      (x.eval t scope).bind fun a => (Expr.evalAll t scope xs).map (a :: ·) := by
  rw [Expr.evalAll]
  cases x.eval t scope with
  | error e => rfl
  | ok a => cases Expr.evalAll t scope xs <;> rfl

mutual

/-- Evaluating an expression is local to rows. -/
theorem Expr.rowLocal_rectangular (hlen : t.Rectangular) (hc : Covers picks t.rows)
    (hn : 0 < t.rows) :
    (x : Expr) → RowBound picks t.rows scope x.calls x.operators →
      RowLocalDatum picks t.rows (x.eval t scope) fun p => x.eval (t.gather p) scope
  | .lit v, _ => .ok trivial
  | .column name, _ => by
      simp only [Expr.eval, Table.find?_gather]
      cases hfind : t.find? name with
      | none => exact .error (hc.exists_pick hn)
      | some c =>
          exact .ok (hlen _ (Table.mem_of_find? hfind))
  | .call name args, h => by
      have hhas : ∀ p, (t.gather p).has name = t.has name := by
        intro p
        rw [Table.has, Table.names_gather, Table.has]
      cases hname : t.has name with
      | true =>
          simp only [Expr.eval, hhas, hname, if_true]
          exact .error (hc.exists_pick hn)
      | false =>
          simp only [Expr.eval_call ((hhas _).trans hname), Expr.eval_call hname]
          refine (Expr.rowLocal_all hlen hc hn args ?_).bind fun data _ hdata => ?_
          · exact h.mono (List.subset_cons_self _ _) (List.Subset.refl _)
          · refine Scope.rowLocal_call hc hn (h.scope name List.mem_cons_self) ?_ hdata
            intro hcount p hp
            rcases h.rows with ⟨_, hnone⟩ | hperm
            · exact absurd (hcount ▸ List.mem_cons_self) hnone
            · rw [Table.rows_gather (hc.bounds p hp), (hperm p hp).length_eq, List.length_range]
  | .unary op x, h => by
      simp only [Expr.eval_unary]
      exact (Expr.rowLocal_rectangular hlen hc hn x h).bind fun a _ ha => op.rowLocal hc hn ha
  | .binary op x y, h => by
      simp only [Expr.eval_binary]
      have hops := List.subset_cons_self op (x.operators ++ y.operators)
      have hx := h.mono (List.subset_append_left _ _)
        (List.Subset.trans (List.subset_append_left _ _) hops)
      have hy := h.mono (List.subset_append_right _ _)
        (List.Subset.trans (List.subset_append_right _ _) hops)
      refine (Expr.rowLocal_rectangular hlen hc hn x hx).bind fun a _ ha => ?_
      refine (Expr.rowLocal_rectangular hlen hc hn y hy).bind fun b _ hb => ?_
      refine BinaryOp.rowLocal hc hn (h.rows.imp_left fun hfree hpow => ?_) ha hb
      exact hfree.1 (hpow ▸ List.mem_cons_self)

/-- So is evaluating several. -/
theorem Expr.rowLocal_all (hlen : t.Rectangular) (hc : Covers picks t.rows) (hn : 0 < t.rows) :
    (xs : List Expr) → RowBound picks t.rows scope (Expr.callsAll xs) (Expr.operatorsAll xs) →
      RowLocal picks (fun data => ∀ d ∈ data, d.Fits t.rows)
        (fun p data => data.map (Datum.take p)) (Expr.evalAll t scope xs)
        fun p => Expr.evalAll (t.gather p) scope xs
  | [], _ => .ok fun _ h => by cases h
  | x :: xs, h => by
      simp only [Expr.evalAll_cons]
      have hx := h.mono (List.subset_append_left _ _) (List.subset_append_left _ _)
      have hxs := h.mono (List.subset_append_right _ _) (List.subset_append_right _ _)
      refine (Expr.rowLocal_rectangular hlen hc hn x hx).bind fun a _ ha => ?_
      have hall := Expr.rowLocal_all hlen hc hn xs hxs
      exact hall.map (fun data hdata => List.forall_mem_cons.mpr ⟨ha, hdata⟩) fun _ _ => rfl

end

theorem Expr.rowLocal_eval (wf : t.WellFormed) (hc : Covers picks t.rows) (hn : 0 < t.rows)
    (x : Expr) (h : RowBound picks t.rows scope x.calls x.operators) :
    RowLocalDatum picks t.rows (x.eval t scope) fun p => x.eval (t.gather p) scope :=
  Expr.rowLocal_rectangular wf.lengths hc hn x h

end

/-! ## Families of picks -/

theorem covers_rows (n : Nat) : Covers (fun p => ∃ i < n, p = [i]) n where
  bounds := by
    rintro _ ⟨i, hi, rfl⟩ j hj
    rwa [List.mem_singleton.mp hj]
  nonempty := by
    rintro _ ⟨i, _, rfl⟩
    exact List.cons_ne_nil _ _
  reaches := fun i hi => ⟨[i], ⟨i, hi, rfl⟩, List.mem_singleton_self i⟩

theorem covers_nonempty (n : Nat) : Covers (fun p => p ≠ [] ∧ ∀ i ∈ p, i < n) n where
  bounds := fun _ hp => hp.2
  nonempty := fun _ hp => hp.1
  reaches := fun i hi => by
    refine ⟨[i], ⟨List.cons_ne_nil _ _, fun j hj => ?_⟩, List.mem_singleton_self i⟩
    rwa [List.mem_singleton.mp hj]

theorem covers_perm {n : Nat} (hn : 0 < n) {order : List Nat} (h : order.Perm (List.range n)) :
    Covers (· = order) n where
  bounds := by
    rintro _ rfl i hi
    exact List.mem_range.mp (h.mem_iff.mp hi)
  nonempty := by
    rintro _ rfl
    refine List.ne_nil_of_length_pos ?_
    rwa [h.length_eq, List.length_range]
  reaches := fun i hi => ⟨order, rfl, h.mem_iff.mpr (List.mem_range.mpr hi)⟩

/-- The value of an expression on rows picked from a table. -/
def Expr.evalAt (x : Expr) (t : Table) (scope : Scope) (positions : List Nat) :
    Except Error Datum :=
  (t.take positions).bind fun picked => x.eval picked scope

theorem Expr.evalAt_of_bounds {x : Expr} {t : Table} {scope : Scope} {positions : List Nat}
    (h : ∀ i ∈ positions, i < t.rows) :
    x.evalAt t scope positions = x.eval (t.gather positions) scope := by
  rw [Expr.evalAt, Table.take_of_bounds h]
  rfl

/-- An expression that calls no function of the scope is evaluated row by row.
Without powers and the number of rows it has a value exactly if it has one on
each row alone, and on any rows its value is that on all, picked; with them the
same holds when rows are only reordered. -/
theorem Expr.eval_by_rows {x : Expr} {t : Table} {scope : Scope} (wf : t.WellFormed)
    (hn : 0 < t.rows)
    (hscope : ∀ name ∈ x.calls, name ≠ rowCountName → scope.find? name = none) :
    (.arithmetic .pow ∉ x.operators → rowCountName ∉ x.calls →
      ((∃ v, x.eval t scope = .ok v) ↔ ∀ i < t.rows, ∃ v, x.evalAt t scope [i] = .ok v) ∧
      ∀ v, x.eval t scope = .ok v → v.Fits t.rows ∧
        ∀ p, p ≠ [] → (∀ i ∈ p, i < t.rows) → x.evalAt t scope p = .ok (v.take p)) ∧
    ∀ p, p.Perm (List.range t.rows) →
      ((∃ v, x.eval t scope = .ok v) ↔ ∃ v, x.evalAt t scope p = .ok v) ∧
      ∀ v, x.eval t scope = .ok v → v.Fits t.rows ∧ x.evalAt t scope p = .ok (v.take p) := by
  constructor
  · intro hpow hcount
    have hany := rowLocal_eval wf (covers_nonempty t.rows) hn x ⟨hscope, .inl ⟨hpow, hcount⟩⟩
    have hsingle := rowLocal_eval wf (covers_rows t.rows) hn x ⟨hscope, .inl ⟨hpow, hcount⟩⟩
    have hpicked : ∀ v, x.eval t scope = .ok v → v.Fits t.rows ∧
        ∀ p, p ≠ [] → (∀ i ∈ p, i < t.rows) → x.evalAt t scope p = .ok (v.take p) := by
      intro v hv
      refine ⟨(hany.picked v hv).1, fun p hne hp => ?_⟩
      rw [evalAt_of_bounds hp]
      exact (hany.picked v hv).2 p ⟨hne, hp⟩
    refine ⟨⟨fun ⟨v, hv⟩ i hi => ?_, fun hrows => ?_⟩, hpicked⟩
    · refine ⟨v.take [i], (hpicked v hv).2 [i] (List.cons_ne_nil _ _) fun j hj => ?_⟩
      rwa [List.mem_singleton.mp hj]
    · refine hsingle.covered ?_
      rintro p ⟨i, hi, rfl⟩
      obtain ⟨v, hv⟩ := hrows i hi
      rw [evalAt_of_bounds ((covers_rows t.rows).bounds _ ⟨i, hi, rfl⟩)] at hv
      exact ⟨v, hv⟩
  · intro p hp
    have hcovers := covers_perm hn hp
    have hlocal := rowLocal_eval wf hcovers hn x ⟨hscope, .inr fun _ h => h ▸ hp⟩
    rw [evalAt_of_bounds (hcovers.bounds p rfl)]
    have hpicked : ∀ v, x.eval t scope = .ok v →
        v.Fits t.rows ∧ x.eval (t.gather p) scope = .ok (v.take p) :=
      fun v hv => ⟨(hlocal.picked v hv).1, (hlocal.picked v hv).2 p rfl⟩
    refine ⟨⟨fun ⟨v, hv⟩ => ⟨_, (hpicked v hv).2⟩, fun h => ?_⟩, hpicked⟩
    exact hlocal.covered fun _ hq => hq ▸ h

/-- Half the size of three numbers, on the third, the first and the third again. -/
theorem Expr.eval_by_rows_halves :
    (Expr.binary (.arithmetic .floorDiv) (.call "abs" [.column "a"]) (.lit (.int 2))).evalAt
      ⟨[("a", .ints [3, -4, 9])], [0, 1, 2]⟩ Scope.empty [2, 0, 2] =
        .ok (.column (.ints [4, 1, 4])) :=
  ((Expr.eval_by_rows ⟨by decide, by decide⟩ (by decide) fun _ _ _ => rfl).1
    (by decide) (by decide)).2 (.column (.ints [1, 2, 4])) rfl |>.2 [2, 0, 2] (by decide) (by decide)

end TableVerbs
