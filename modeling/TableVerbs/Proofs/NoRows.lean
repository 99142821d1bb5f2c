import TableVerbs.Proofs.RowLocalExpr

/-!
# Evaluating without rows

Where no row is left, an operator has nothing to fail on, but it has nothing to
infer the type of its result from either. It then gives an empty column, of truth
values for a predicate and of its operand's type for any other. So an expression
that has a value on some rows has one on none of them: the same cell, or an
empty column instead of a column.

The type of the empty column may be another one, since a sum of an integer and a
float is one of floats and without rows one of integers. What carries over is
that a column of truth values stays one. These come from columns of the table,
from predicates and from their negations, and for all of these the type without
rows is right.
-/

namespace TableVerbs

/-- A value on some rows, and the value on none of them. -/
inductive Datum.Emptied : Datum → Datum → Prop
  | cell (v : Cell) : Emptied (.cell v) (.cell v)
  | column {c : Column} {type : CellType} :
      (c.type = .bool → type = .bool) → Emptied (.column c) (.column (.empty type))

namespace Column

@[simp] theorem type_empty (type : CellType) : (empty type).type = type := by cases type <;> rfl

@[simp] theorem cells_empty (type : CellType) : (empty type).cells = [] := by cases type <;> rfl

@[simp] theorem length_empty (type : CellType) : (empty type).length = 0 := by cases type <;> rfl

theorem take_nil (c : Column) : c.take [] = empty c.type := by cases c <;> rfl

@[simp] theorem mapCells_empty (otherwise type : CellType) (f : Cell → Except Error Cell) :
    (empty type).mapCells otherwise f = .ok (empty otherwise) := by
  rw [mapCells, cells_empty]
  rfl

/-! ## Columns of results -/

/-- The column is made of cells of which each is one of these, and there are some. -/
def Collects (c : Column) (made : Cell → Prop) : Prop :=
  ∃ vs, vs ≠ [] ∧ common? vs = some c.type ∧ ∀ v ∈ vs, made v

theorem collects_of_collect {β : Type} {f : β → Except Error Cell} {xs : List β}
    {otherwise : CellType} {c : Column} (hxs : xs ≠ [])
    (h : (xs.mapM f).bind (collect otherwise) = .ok c) :
    c.Collects fun v => ∃ x ∈ xs, f x = .ok v := by
  obtain ⟨vs, hvs, hcollect⟩ := bind_eq_ok.mp h
  have hne : vs ≠ [] := by
    intro hnil
    have hlen := mapM_length hvs
    rw [hnil] at hlen
    exact hxs (List.length_eq_zero_iff.mp hlen.symm)
  refine ⟨vs, hne, ?_, fun v hv => mem_of_mapM hvs hv⟩
  rw [collect, if_neg (by rwa [List.isEmpty_iff]), ofCells_eq hne] at hcollect
  split at hcollect
  · next type hcommon =>
      cases hcollect
      rw [type_readAs]
      exact hcommon
  · cases hcollect

end Column

/-! ## Operators -/

/-- A computation of a value, and the computation without rows. -/
def HasEmptied (whole empty : Except Error Datum) : Prop :=
  ∀ v, whole = .ok v → ∃ w, empty = .ok w ∧ v.Emptied w

theorem hasEmptied_cell (result : Except Error Cell) :
    HasEmptied (result.map .cell) (result.map .cell) := by
  intro v hv
  obtain ⟨x, rfl, rfl⟩ := map_eq_ok.mp hv
  exact ⟨_, rfl, .cell x⟩

/-- Making a column of results. Where truth values are among them, the column without
rows has to be one of truth values. -/
theorem hasEmptied_collect {β : Type} {f : β → Except Error Cell} {xs : List β}
    {otherwise otherwise' : CellType} (hxs : xs ≠ [])
    (h : ∀ x ∈ xs, ∀ v, f x = .ok v → v.type = .bool → otherwise' = .bool) :
    HasEmptied (((xs.mapM f).bind (Column.collect otherwise)).map .column)
      (.ok (.column (.empty otherwise'))) := by
  intro v hv
  obtain ⟨d, hd, rfl⟩ := map_eq_ok.mp hv
  refine ⟨_, rfl, .column fun hbool => ?_⟩
  obtain ⟨vs, hne, hcommon, hall⟩ := Column.collects_of_collect hxs hd
  obtain ⟨w, rest, rfl⟩ := List.exists_cons_of_ne_nil hne
  obtain ⟨x, hx, hfx⟩ := hall w List.mem_cons_self
  have hfits := Column.fitsType_of_common? hcommon w List.mem_cons_self
  rw [hbool] at hfits
  refine h x hx w hfx ?_
  cases w with
  | bool b => rfl
  | int b | float b | str b => cases hfits

theorem Column.cells_ne_nil {c : Column} (h : 0 < c.length) : c.cells ≠ [] :=
  List.ne_nil_of_length_pos (c.length_cells.symm ▸ h)

theorem Column.zip_cells_ne_nil {c d : Column} (hlen : c.length = d.length) (hc : 0 < c.length) :
    c.cells.zip d.cells ≠ [] := by
  refine List.ne_nil_of_length_pos ?_
  rw [List.length_zip, length_cells, length_cells, ← hlen, Nat.min_self]
  exact hc

theorem hasEmptied_mapCells {c : Column} (type : CellType) {otherwise otherwise' : CellType}
    {f : Cell → Except Error Cell} (hc : 0 < c.length)
    (h : ∀ v ∈ c.cells, ∀ w, f v = .ok w → w.type = .bool → otherwise' = .bool) :
    HasEmptied ((c.mapCells otherwise f).map .column)
      (((Column.empty type).mapCells otherwise' f).map .column) := by
  rw [Column.mapCells_eq, Column.mapCells_empty]
  exact hasEmptied_collect (Column.cells_ne_nil hc) h

theorem UnaryOp.hasEmptied (op : UnaryOp) {n : Nat} (hn : 0 < n) {a a' : Datum} (ha : a.Fits n)
    (h : a.Emptied a') : HasEmptied (op.onDatum a) (op.onDatum a') := by
  cases h with
  | cell v => exact hasEmptied_cell _
  | @column c type htype =>
      rw [UnaryOp.onDatum, UnaryOp.onDatum, Column.type_empty]
      refine hasEmptied_mapCells type (ha ▸ hn) fun v hv w hw hbool => ?_
      exact htype ((Column.type_of_mem_cells hv).symm.trans (op.type_apply hw ▸ hbool))

theorem Arithmetic.type_onInts_number {op : Arithmetic} {a b : Int64} {v : Cell}
    (h : op.onInts a b = .ok v) : v.type = .int ∨ v.type = .float := by
  by_cases hpow : op = .pow
  · subst hpow
    rw [onInts] at h
    split at h
    · cases h
      exact .inr rfl
    · split at h
      · cases h
      · exact .inl (type_exactly h)
  · rw [type_onInts hpow h]
    split
    · exact .inr rfl
    · exact .inl rfl

/-- Arithmetic gives no truth values, powers included. -/
theorem Arithmetic.type_ne_bool {op : Arithmetic} {a b v : Cell} (h : op.apply a b = .ok v) :
    v.type ≠ .bool := by
  intro hbool
  cases a with
  | int x | bool x =>
      cases b with
      | int y | bool y =>
          have hnumber : v.type = .int ∨ v.type = .float := type_onInts_number h
          simp [hbool] at hnumber
      | float y =>
          cases h
          cases hbool
      | str y => cases h
  | float x =>
      cases b with
      | int y | bool y | float y =>
          cases h
          cases hbool
      | str y => cases h
  | str x =>
      cases b with
      | str y =>
          simp only [apply] at h
          split at h
          · cases h
            cases hbool
          · cases h
      | int y | bool y | float y => cases h

/-- An operator that gives truth values gives them without rows, too. -/
theorem BinaryOp.typeWithoutRows_of_apply {op : BinaryOp} {a b v : Cell}
    (h : op.apply a b = .ok v) (hv : v.type = .bool) (type : CellType) :
    op.typeWithoutRows type = .bool := by
  cases op with
  | arithmetic op => exact absurd hv (Arithmetic.type_ne_bool h)
  | comparison op | connective op => rfl

theorem BinaryOp.hasEmptied (op : BinaryOp) {n : Nat} (hn : 0 < n) {a a' b b' : Datum}
    (ha : a.Fits n) (hb : b.Fits n) (hemptied : a.Emptied a') (hemptied' : b.Emptied b') :
    HasEmptied (op.onDatum a b) (op.onDatum a' b') := by
  cases hemptied with
  | cell x =>
      cases hemptied' with
      | cell y => exact hasEmptied_cell _
      | @column d type _ =>
          exact hasEmptied_mapCells type (hb ▸ hn) fun _ _ _ h hv =>
            op.typeWithoutRows_of_apply h hv _
  | @column c type _ =>
      cases hemptied' with
      | cell y =>
          exact hasEmptied_mapCells type (ha ▸ hn) fun _ _ _ h hv =>
            op.typeWithoutRows_of_apply h hv _
      | @column d type' _ =>
          have hlen : c.length = d.length := Eq.trans ha hb.symm
          have hcells := Column.zip_cells_ne_nil hlen (ha ▸ hn)
          rw [onColumns_eq op hlen, onColumns_eq op (by simp)]
          simp only [Column.cells_empty]
          exact hasEmptied_collect hcells fun pair _ _ h hv =>
            op.typeWithoutRows_of_apply h hv _

/-! ## Functions -/

namespace Function

/-- No function gives truth values. -/
theorem hasEmptied_onNumbers (name : String) {f : Cell → Cell} (hf : ∀ v, (f v).type ≠ .bool)
    {n : Nat} (hn : 0 < n) {a a' : Datum} (ha : a.Fits n) (h : a.Emptied a') :
    HasEmptied (onNumbers name f a) (onNumbers name f a') := by
  cases h with
  | cell v => exact hasEmptied_cell _
  | @column c type _ =>
      simp only [onNumbers, Column.type_empty]
      refine hasEmptied_mapCells type (ha ▸ hn) fun v _ w hw hbool => ?_
      split at hw
      · cases hw
        exact absurd hbool (hf v)
      · cases hw

theorem hasEmptied_error {e : Error} {empty : Except Error Datum} :
    HasEmptied (.error e) empty := fun _ h => by cases h

theorem hasEmptied_ofNumber (name : String) {f : Cell → Cell} (hf : ∀ v, (f v).type ≠ .bool)
    {n : Nat} (hn : 0 < n) {data data' : List Datum} (hdata : ∀ d ∈ data, d.Fits n)
    (h : List.Forall₂ Datum.Emptied data data') :
    HasEmptied (ofNumber name f data) (ofNumber name f data') := by
  cases h with
  | nil => exact hasEmptied_error
  | @cons a _ _ _ ha hrest =>
      cases hrest with
      | nil => exact hasEmptied_onNumbers name hf hn (hdata a List.mem_cons_self) ha
      | cons _ _ => exact hasEmptied_error

theorem hasEmptied_round {n : Nat} (hn : 0 < n) {data data' : List Datum}
    (hdata : ∀ d ∈ data, d.Fits n) (h : List.Forall₂ Datum.Emptied data data') :
    HasEmptied (round data) (round data') := by
  have hto : ∀ (places : Int64) v, (roundTo places v).type ≠ .bool := by
    intro places v
    rw [type_roundTo]
    split <;> simp
  cases h with
  | nil => exact hasEmptied_error
  | @cons a _ _ _ ha hrest =>
      have hfits := hdata a List.mem_cons_self
      cases hrest with
      | nil => exact hasEmptied_onNumbers _ (hto 0) hn hfits ha
      | @cons b _ _ _ hb hmore =>
          cases hmore with
          | nil =>
              cases hb with
              | column _ => exact hasEmptied_error
              | cell v =>
                  cases v with
                  | int places => exact hasEmptied_onNumbers _ (hto places) hn hfits ha
                  | float _ | bool _ | str _ => exact hasEmptied_error
          | cons _ _ =>
              rw [round_many]
              exact hasEmptied_error

theorem hasEmptied_builtin {n : Nat} (hn : 0 < n) {name : String} {f : Function}
    (hf : builtin? name = some f) {data data' : List Datum} (hdata : ∀ d ∈ data, d.Fits n)
    (h : List.Forall₂ Datum.Emptied data data') : HasEmptied (f data) (f data') := by
  have hfloat : ∀ (g : Float → Float) v, (onFloat g v).type ≠ .bool := fun g v => by
    rw [type_onFloat]
    decide
  unfold builtin? at hf
  split at hf <;> cases hf
  · refine hasEmptied_ofNumber _ (fun v => ?_) hn hdata h
    rw [type_magnitude]
    split <;> simp
  · exact hasEmptied_ofNumber _ (hfloat _) hn hdata h
  · exact hasEmptied_ofNumber _ (hfloat _) hn hdata h
  · exact hasEmptied_ofNumber _ (hfloat _) hn hdata h
  · exact hasEmptied_round hn hdata h

end Function

/-! ## Whole expressions -/

section

variable {t : Table} {scope : Scope}

/-- A value stands in the table it was computed on. -/
theorem Expr.fits_eval (hlen : t.Rectangular) (hn : 0 < t.rows) {x : Expr}
    (hscope : ∀ name ∈ x.calls, name ≠ rowCountName → scope.find? name = none) {v : Datum}
    (hv : x.eval t scope = .ok v) : v.Fits t.rows := by
  have hall := covers_perm hn (List.Perm.refl (List.range t.rows))
  have hlocal := rowLocal_rectangular hlen hall hn x
    ⟨hscope, .inr fun p hp => hp ▸ List.Perm.refl _⟩
  exact (hlocal.picked v hv).1

theorem Expr.fits_evalAll (hlen : t.Rectangular) (hn : 0 < t.rows) {xs : List Expr}
    (hscope : ∀ name ∈ Expr.callsAll xs, name ≠ rowCountName → scope.find? name = none)
    {data : List Datum} (hdata : Expr.evalAll t scope xs = .ok data) :
    ∀ d ∈ data, d.Fits t.rows := by
  have hall := covers_perm hn (List.Perm.refl (List.range t.rows))
  have hlocal := rowLocal_all hlen hall hn xs
    ⟨hscope, .inr fun p hp => hp ▸ List.Perm.refl _⟩
  exact (hlocal.picked data hdata).1

/-- No function of the scope is called, and the number of rows is not asked for. -/
def Scope.Untouched (scope : Scope) (calls : List String) : Prop :=
  ∀ name ∈ calls, name ≠ rowCountName ∧ scope.find? name = none

theorem Scope.hasEmptied_call {name : String} (hname : name ≠ rowCountName)
    (hscope : scope.find? name = none) {n m : Nat} (hn : 0 < n) {data data' : List Datum}
    (hdata : ∀ d ∈ data, d.Fits n) (h : List.Forall₂ Datum.Emptied data data') :
    HasEmptied (scope.call n name data) (scope.call m name data') := by
  simp only [call, if_neg hname, hscope, Option.none_or]
  cases hf : Function.builtin? name with
  | none => exact Function.hasEmptied_error
  | some f => exact Function.hasEmptied_builtin hn hf hdata h

theorem Scope.Untouched.mono {calls calls' : List String} (h : scope.Untouched calls)
    (hcalls : calls' ⊆ calls) : scope.Untouched calls' :=
  fun name hname => h name (hcalls hname)

theorem Scope.Untouched.unknown {calls : List String} (h : scope.Untouched calls) :
    ∀ name ∈ calls, name ≠ rowCountName → scope.find? name = none :=
  fun name hname _ => (h name hname).2

theorem HasEmptied.bind {whole empty : Except Error Datum} {next next' : Datum → Except Error Datum}
    (h : HasEmptied whole empty)
    (hnext : ∀ v w, whole = .ok v → v.Emptied w → HasEmptied (next v) (next' w)) :
    HasEmptied (whole.bind next) (empty.bind next') := by
  intro u hu
  cases hv : whole with
  | error e =>
      rw [hv] at hu
      cases hu
  | ok v =>
      rw [hv] at hu
      obtain ⟨w, hw, hvw⟩ := h v hv
      rw [hw]
      exact hnext v w hv hvw u hu

mutual

/-- An expression that has a value on some rows has one on none. -/
theorem Expr.hasEmptied_eval (hlen : t.Rectangular) (hn : 0 < t.rows) :
    (x : Expr) → scope.Untouched x.calls → HasEmptied (x.eval t scope) (x.eval (t.gather []) scope)
  | .lit v, _ => by
      intro w hw
      cases hw
      exact ⟨_, rfl, .cell v⟩
  | .column name, _ => by
      intro v hv
      simp only [Expr.eval] at hv
      simp only [Expr.eval, Table.find?_gather]
      split at hv
      next c hfind =>
        cases hv
        rw [hfind, Option.map_some, Column.take_nil]
        exact ⟨_, rfl, .column id⟩
      next => cases hv
  | .call name args, h => by
      obtain ⟨hname, hfind⟩ := h name List.mem_cons_self
      have hargs : scope.Untouched (Expr.callsAll args) := h.mono (List.subset_cons_self _ _)
      have hhas : (t.gather []).has name = t.has name := by
        rw [Table.has, Table.names_gather, Table.has]
      cases hcolumn : t.has name with
      | true =>
          simp only [Expr.eval, hcolumn, if_true]
          exact Function.hasEmptied_error
      | false =>
          rw [Expr.eval_call hcolumn, Expr.eval_call (hhas.trans hcolumn)]
          intro u hu
          cases hdata : Expr.evalAll t scope args with
          | error e =>
              rw [hdata] at hu
              cases hu
          | ok data =>
              rw [hdata] at hu
              obtain ⟨data', hdata', hemptied⟩ :=
                Expr.hasEmptied_evalAll hlen hn args hargs data hdata
              rw [hdata']
              have hfits := Expr.fits_evalAll hlen hn hargs.unknown hdata
              exact Scope.hasEmptied_call hname hfind hn hfits hemptied u hu
  | .unary op x, h => by
      have hx : scope.Untouched x.calls := h
      rw [Expr.eval_unary, Expr.eval_unary]
      refine (Expr.hasEmptied_eval hlen hn x hx).bind fun v w hv hvw => ?_
      exact op.hasEmptied hn (Expr.fits_eval hlen hn hx.unknown hv) hvw
  | .binary op x y, h => by
      have hx : scope.Untouched x.calls := h.mono (List.subset_append_left _ _)
      have hy : scope.Untouched y.calls := h.mono (List.subset_append_right _ _)
      rw [Expr.eval_binary, Expr.eval_binary]
      refine (Expr.hasEmptied_eval hlen hn x hx).bind fun a a' ha haa' => ?_
      refine (Expr.hasEmptied_eval hlen hn y hy).bind fun b b' hb hbb' => ?_
      exact op.hasEmptied hn (Expr.fits_eval hlen hn hx.unknown ha)
        (Expr.fits_eval hlen hn hy.unknown hb) haa' hbb'

/-- So have several. -/
theorem Expr.hasEmptied_evalAll (hlen : t.Rectangular) (hn : 0 < t.rows) :
    (xs : List Expr) → scope.Untouched (Expr.callsAll xs) → ∀ data,
      Expr.evalAll t scope xs = .ok data →
        ∃ data', Expr.evalAll (t.gather []) scope xs = .ok data' ∧
          List.Forall₂ Datum.Emptied data data'
  | [], _, data, hdata => by
      cases hdata
      exact ⟨[], rfl, .nil⟩
  | x :: xs, h, data, hdata => by
      have hx : scope.Untouched x.calls := h.mono (List.subset_append_left _ _)
      have hxs : scope.Untouched (Expr.callsAll xs) := h.mono (List.subset_append_right _ _)
      rw [Expr.evalAll_cons] at hdata
      cases hv : x.eval t scope with
      | error e =>
          rw [hv] at hdata
          cases hdata
      | ok v =>
          rw [hv] at hdata
          obtain ⟨rest, hrest, rfl⟩ := map_eq_ok.mp hdata
          obtain ⟨w, hw, hvw⟩ := Expr.hasEmptied_eval hlen hn x hx v hv
          obtain ⟨rest', hrest', hemptied⟩ := Expr.hasEmptied_evalAll hlen hn xs hxs rest hrest
          refine ⟨w :: rest', ?_, .cons hvw hemptied⟩
          rw [Expr.evalAll_cons, hw, hrest']
          rfl

end

end

end TableVerbs
