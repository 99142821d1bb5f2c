import TableVerbs.Proofs.ExactArithmetic
import TableVerbs.Proofs.RowLocalExpr

/-!
# Expressions of integers are exact

Integers in expressions are 64-bit ones, and yet an expression of integers means
what it means over all integers: on every row it has that value, or the whole
evaluation fails, and then there is a row on which some part has no value or
none that fits.

Three things break this, and the statements keep them apart. A part may wrap,
which is the least integer divided by -1 or its magnitude; what is said of a
success is said where no part does on any row. One row is not enough: a wrapped
exponent is negative, a negative power is a float, and one float makes floats of
the whole column. A part may be refused for an exponent beyond 32 bits, which is
a failure without a reason of the other kinds.

`IntExpr` are the expressions in question. The induction is on them, and what it
carries from part to part is a column of integers, or a cell in the place of a
constant one, with the exact value on every row.
-/

namespace TableVerbs

/-! ## Integers on every row -/

namespace Datum

/-- The value in a row; a cell stands in every row. -/
def at? (row : Nat) : Datum → Option Cell
  | .cell v => some v
  | .column c => c.get? row

/-- A datum that holds these integers, one for each of some rows. -/
inductive Holds (rows : Nat) (value : Nat → Int64) : Datum → Prop where
  | cell {v : Int64} (h : ∀ i < rows, value i = v) : Holds rows value (.cell (.int v))
  | column {xs : List Int64} (hlen : xs.length = rows) (h : ∀ i < rows, xs[i]? = some (value i)) :
      Holds rows value (.column (.ints xs))

theorem Holds.fits {rows : Nat} {value : Nat → Int64} {d : Datum} (h : d.Holds rows value) :
    d.Fits rows := by
  cases h with
  | cell _ => exact trivial
  | column hlen _ => exact hlen

theorem Holds.at? {rows : Nat} {value : Nat → Int64} {d : Datum} (h : d.Holds rows value)
    {i : Nat} (hi : i < rows) : d.at? i = some (.int (value i)) := by
  cases h with
  | cell h => rw [h i hi]; rfl
  | column _ h =>
      show (List.map Cell.int _)[i]? = _
      rw [List.getElem?_map, h i hi]
      rfl

end Datum

/-- A result that is what its rows come to: integers if each of them is one, and
a failure if one of them is. -/
def RowWise (rows : Nat) (result : Except Error Datum) (row : Nat → Except Error Cell) : Prop :=
  (∃ d value, result = .ok d ∧ d.Holds rows value ∧ ∀ i < rows, row i = .ok (.int (value i))) ∨
    ∃ e, result = .error e ∧ ∃ i < rows, ∃ e', row i = .error e'

section

variable {rows : Nat} {row : Nat → Except Error Cell}

theorem rowWise_cell (hrows : 0 < rows) {result : Except Error Cell}
    (hrow : ∀ i < rows, row i = result)
    (hint : ∀ i < rows, ∀ v, row i = .ok v → ∃ n, v = .int n) :
    RowWise rows (result.map .cell) row := by
  cases hresult : result with
  | error e => exact .inr ⟨e, rfl, 0, hrows, e, by rw [hrow 0 hrows, hresult]⟩
  | ok v =>
      obtain ⟨n, rfl⟩ := hint 0 hrows v (by rw [hrow 0 hrows, hresult])
      refine .inl ⟨.cell (.int n), fun _ => n, rfl, .cell fun _ _ => rfl, fun i hi => ?_⟩
      rw [hrow i hi, hresult]

theorem collect_ints {ns : List Int64} (hne : ns ≠ []) (otherwise : CellType) :
    Column.collect otherwise (ns.map .int) = .ok (.ints ns) := by
  have hread : (ns.map Cell.int).filterMap Cell.int? = ns := by
    rw [List.filterMap_map]
    exact List.filterMap_some
  have hall : (ns.map Cell.int).all (·.type == .int) = true := by
    rw [List.all_map, List.all_eq_true]
    exact fun _ _ => rfl
  have hcells : ns.map Cell.int ≠ [] := mt List.map_eq_nil_iff.mp hne
  rw [Column.collect, if_neg (by rwa [List.isEmpty_iff]), Column.ofCells_eq hcells,
    Column.common?, if_pos hall]
  show Except.ok (Column.ints ((ns.map Cell.int).filterMap Cell.int?)) = _
  rw [hread]

theorem exists_ints {cells : List Cell} (h : ∀ v ∈ cells, ∃ n : Int64, v = .int n) :
    ∃ ns : List Int64, cells = ns.map Cell.int := by
  induction cells with
  | nil => exact ⟨[], rfl⟩
  | cons v rest ih =>
      obtain ⟨⟨n, rfl⟩, hrest⟩ := List.forall_mem_cons.mp h
      obtain ⟨ns, rfl⟩ := ih hrest
      exact ⟨n :: ns, rfl⟩

theorem getElem?_getD {ns : List Int64} {i : Nat} (h : i < ns.length) :
    ns[i]? = some (ns.getD i 0) := by
  rw [List.getD_eq_getElem?_getD, List.getElem?_eq_getElem h]
  rfl

theorem exists_error_of_mapM {β : Type} {f : β → Except Error Cell} {xs : List β} {e : Error}
    (h : xs.mapM f = .error e) :
    ∃ (i : Nat) (x : β) (e' : Error), xs[i]? = some x ∧ f x = .error e' := by
  obtain ⟨before, x, after, rfl, _, hx⟩ := mapM_eq_error.mp h
  have hat : (before ++ x :: after)[before.length]? = some x := by
    rw [List.getElem?_append_right (Nat.le_refl _), Nat.sub_self]
    rfl
  exact ⟨before.length, x, e, hat, hx⟩

/-- Integers computed from the members of a list, one for each row. -/
theorem rowWise_collect {β : Type} (hrows : 0 < rows) {xs : List β} (hlen : xs.length = rows)
    {f : β → Except Error Cell} (hrow : ∀ i x, xs[i]? = some x → f x = row i)
    (hint : ∀ i < rows, ∀ v, row i = .ok v → ∃ n, v = .int n) (otherwise : CellType) :
    RowWise rows (((xs.mapM f).bind (Column.collect otherwise)).map .column) row := by
  cases hcells : xs.mapM f with
  | error e =>
      obtain ⟨i, x, e', hx, he'⟩ := exists_error_of_mapM hcells
      have hi : i < rows := hlen ▸ (List.getElem?_eq_some_iff.mp hx).1
      exact .inr ⟨e, rfl, i, hi, e', hrow i x hx ▸ he'⟩
  | ok cells =>
      have hlencells : cells.length = rows := (mapM_length hcells).trans hlen
      have hget : ∀ i < rows, ∀ v, cells[i]? = some v → row i = .ok v := by
        intro i hi v hv
        obtain ⟨hi', rfl⟩ := List.getElem?_eq_some_iff.mp hv
        rw [← hrow i _ (List.getElem?_eq_getElem (hlen ▸ hi))]
        exact (mapM_eq_ok.mp hcells).get (hlen ▸ hi) hi'
      obtain ⟨ns, rfl⟩ := exists_ints fun v hv => by
        obtain ⟨i, hi⟩ := List.mem_iff_getElem?.mp hv
        have hi' : i < rows := hlencells ▸ (List.getElem?_eq_some_iff.mp hi).1
        exact hint i hi' v (hget i hi' v hi)
      have hlenints : ns.length = rows := (List.length_map _).symm.trans hlencells
      have hvalue : ∀ i < rows, ns[i]? = some (ns.getD i 0) :=
        fun i hi => getElem?_getD (hlenints ▸ hi)
      refine .inl ⟨_, fun i => ns.getD i 0, ?_, .column hlenints hvalue, fun i hi => ?_⟩
      · show (Column.collect otherwise _).map Datum.column = _
        rw [collect_ints (List.ne_nil_of_length_pos (hlenints ▸ hrows))]
        rfl
      · exact hget i hi _ (by rw [List.getElem?_map, hvalue i hi]; rfl)

/-- A function applied to a column of integers. -/
theorem rowWise_column (hrows : 0 < rows) {value : Nat → Int64} {xs : List Int64}
    (hlen : xs.length = rows) (hvalue : ∀ i < rows, xs[i]? = some (value i))
    {f : Cell → Except Error Cell} (hrow : ∀ i < rows, f (.int (value i)) = row i)
    (hint : ∀ i < rows, ∀ v, row i = .ok v → ∃ n, v = .int n) (otherwise : CellType) :
    RowWise rows (((Column.ints xs).mapCells otherwise f).map .column) row := by
  rw [Column.mapCells_eq]
  refine rowWise_collect hrows ((List.length_map _).trans hlen) (fun i x hx => ?_) hint otherwise
  obtain ⟨n, hn, rfl⟩ := List.getElem?_map ▸ hx |> Option.map_eq_some_iff.mp
  have hi : i < rows := hlen ▸ (List.getElem?_eq_some_iff.mp hn).1
  rw [hvalue i hi] at hn
  cases hn
  exact hrow i hi

variable {value value' : Nat → Int64} {a b : Datum}

theorem rowWise_neg (hrows : 0 < rows) (ha : a.Holds rows value) :
    RowWise rows (UnaryOp.neg.onDatum a) fun i => Cell.negate (.int (value i)) := by
  have hint : ∀ i < rows, ∀ v, Cell.negate (.int (value i)) = .ok v → ∃ n, v = .int n := by
    intro i _ v hv
    simp only [Cell.negate] at hv
    split at hv
    · next n _ =>
        cases hv
        exact ⟨n, rfl⟩
    · cases hv
  cases ha with
  | cell hv => exact rowWise_cell hrows (fun i hi => by rw [hv i hi]; rfl) hint
  | column hlen hv => exact rowWise_column hrows hlen hv (fun _ _ => rfl) hint _

theorem rowWise_abs (hrows : 0 < rows) (ha : a.Holds rows value) :
    RowWise rows (Function.onNumbers "abs" Function.magnitude a)
      fun i => .ok (.int (value i).abs) := by
  have hint : ∀ i < rows, ∀ v, Except.ok (Cell.int (value i).abs) = (.ok v : Except Error Cell) →
      ∃ n, v = .int n := by
    intro i _ v hv
    cases hv
    exact ⟨_, rfl⟩
  cases ha with
  | cell hv => exact rowWise_cell hrows (fun i hi => by rw [hv i hi]) hint
  | column hlen hv => exact rowWise_column hrows hlen hv (fun _ _ => rfl) hint _

theorem rowWise_arithmetic (hrows : 0 < rows) {op : Arithmetic} (ha : a.Holds rows value)
    (hb : b.Holds rows value')
    (hint : ∀ i < rows, ∀ v, op.onInts (value i) (value' i) = .ok v → ∃ n, v = .int n) :
    RowWise rows (BinaryOp.onDatum (.arithmetic op) a b)
      fun i => op.onInts (value i) (value' i) := by
  cases ha with
  | cell hv =>
      cases hb with
      | cell hv' =>
          refine rowWise_cell hrows (fun i hi => ?_) hint
          rw [hv i hi, hv' i hi]
          rfl
      | column hlen hv' =>
          refine rowWise_column hrows hlen hv' (fun i hi => ?_) hint _
          rw [hv i hi]
          rfl
  | @column xs hlen hv =>
      cases hb with
      | cell hv' =>
          refine rowWise_column hrows hlen hv (fun i hi => ?_) hint _
          rw [hv' i hi]
          rfl
      | @column ys hlen' hv' =>
          have hlens : (Column.ints xs).length = (Column.ints ys).length := hlen.trans hlen'.symm
          rw [BinaryOp.onColumns_eq _ hlens]
          refine rowWise_collect hrows ?_ (fun i pair hpair => ?_) hint _
          · rw [List.length_zip, Column.length_cells, Column.length_cells]
            exact (Nat.min_eq_left hlens.le).trans hlen
          · obtain ⟨hx, hy⟩ := List.getElem?_zip_eq_some.mp hpair
            obtain ⟨n, hn, hnx⟩ := Option.map_eq_some_iff.mp (List.getElem?_map ▸ hx)
            obtain ⟨m, hm, hmy⟩ := Option.map_eq_some_iff.mp (List.getElem?_map ▸ hy)
            have hi : i < rows := hlen ▸ (List.getElem?_eq_some_iff.mp hn).1
            rw [hv i hi] at hn
            rw [hv' i hi] at hm
            cases hn
            cases hm
            rw [← hnx, ← hmy]
            rfl

end

/-! ## Expressions of integers -/

/-- An expression made of integers and columns. -/
inductive IntExpr where
  | lit (n : Int64)
  | column (name : String)
  | neg (x : IntExpr)
  | abs (x : IntExpr)
  | arith (op : Arithmetic) (x y : IntExpr)

namespace IntExpr

/-- The expression as one among all. -/
def toExpr : IntExpr → Expr
  | lit n => .lit (.int n)
  | column name => .column name
  | neg x => .unary .neg x.toExpr
  | abs x => .call "abs" [x.toExpr]
  | arith op x y => .binary (.arithmetic op) x.toExpr y.toExpr

/-- The value over all integers, given those of the columns. -/
def value? (env : String → Int) : IntExpr → Option Int
  | lit n => some n.toInt
  | column name => some (env name)
  | neg x => (x.value? env).map fun a => -a
  | abs x => (x.value? env).map fun a => |a|
  | arith op x y => (x.value? env).bind fun a => (y.value? env).bind fun b => op.value? a b

/-- The expression and all expressions in it. -/
def parts : IntExpr → List IntExpr
  | lit n => [lit n]
  | column name => [column name]
  | neg x => neg x :: x.parts
  | abs x => abs x :: x.parts
  | arith op x y => arith op x y :: (x.parts ++ y.parts)

/-- Whether every column is one of integers and the operators stay among them:
plain division is none of those, and the magnitude is the function of that
name, not a column or another function. -/
def Reads (t : Table) (scope : Scope) : IntExpr → Prop
  | lit _ => True
  | column name => ∃ xs, t.find? name = some (.ints xs) ∧ xs.length = t.rows
  | neg x => x.Reads t scope
  | abs x => t.has "abs" = false ∧ scope.find? "abs" = none ∧ x.Reads t scope
  | arith op x y => op ≠ .div ∧ x.Reads t scope ∧ y.Reads t scope

section

variable (env : String → Int)

/-- Dividing by zero. -/
def DividesByZero : IntExpr → Prop
  | arith op _ y => (op = .floorDiv ∨ op = .mod) ∧ y.value? env = some 0
  | _ => False

/-- Having a value that does not fit, or dividing by zero. -/
def Fails (x : IntExpr) : Prop :=
  x.DividesByZero env ∨ ∃ n, x.value? env = some n ∧ ¬Number.InRange n

/-- Raising 0, 1 or -1 to a power beyond 32 bits. -/
def Refused : IntExpr → Prop
  | arith op x y => ∃ a b, x.value? env = some a ∧ y.value? env = some b ∧ op.Refuses a b
  | _ => False

/-- Giving another value than its own. -/
def Wraps : IntExpr → Prop
  | arith op x y => ∃ a b, x.value? env = some a ∧ y.value? env = some b ∧ op.Wraps a b
  | abs x => x.value? env = some (-2 ^ 63)
  | _ => False

/-- Having no negative exponent. -/
def Natural : IntExpr → Prop
  | arith op _ y => op = .pow → ∀ b, y.value? env = some b → 0 ≤ b
  | _ => True

end

end IntExpr

/-- The integer of a column in a row, 0 if there is none. -/
def Table.intAt (t : Table) (row : Nat) (name : String) : Int :=
  match (t.find? name).bind fun c => c.get? row with
  | some (.int n) => n.toInt
  | _ => 0

namespace IntExpr

theorem self_mem_parts (x : IntExpr) : x ∈ x.parts := by
  cases x <;> exact List.mem_cons_self

theorem not_fails {env : String → Int} {x : IntExpr} {n : Int64}
    (h : x.value? env = some n.toInt) : ¬x.Fails env := by
  rintro (hzero | ⟨m, hm, hrange⟩)
  · cases x with
    | arith op x y =>
        obtain ⟨hop, hy⟩ := hzero
        rw [value?, hy] at h
        obtain ⟨a, _, ha⟩ := Option.bind_eq_some_iff.mp h
        rcases hop with rfl | rfl <;> cases ha
    | lit _ | column _ | neg _ | abs _ => exact hzero
  · rw [h] at hm
    cases hm
    exact hrange (Number.inRange_toInt n)

/-- Where an operator does not answer, its expression fails or is refused. -/
theorem fails_of_answers {env : String → Int} {op : Arithmetic} {x y : IntExpr} {a b : Int}
    (hx : x.value? env = some a) (hy : y.value? env = some b) (hdiv : op ≠ .div)
    (hnatural : (arith op x y).Natural env)
    (h : (∀ n, op.value? a b = some n → ¬Number.InRange n) ∨ op.Refuses a b) :
    (arith op x y).Fails env ∨ (arith op x y).Refused env := by
  have hvalue : (arith op x y).value? env = op.value? a b := by
    rw [value?, hx, hy]
    rfl
  rcases h with h | h
  · cases hop : op.value? a b with
    | some n => exact .inl (.inr ⟨n, hvalue.trans hop, h n hop⟩)
    | none =>
        have hpow : op = .pow → ¬b < 0 := fun hop => not_lt.mpr (hnatural hop b hy)
        refine .inl (.inl ?_)
        cases op with
        | add | sub | mul => cases hop
        | div => exact absurd rfl hdiv
        | floorDiv =>
            by_cases hb : b = 0
            · exact ⟨.inl rfl, hb ▸ hy⟩
            · rw [Arithmetic.value?, if_neg hb] at hop
              cases hop
        | mod =>
            by_cases hb : b = 0
            · exact ⟨.inr rfl, hb ▸ hy⟩
            · rw [Arithmetic.value?, if_neg hb] at hop
              cases hop
        | pow =>
            rw [Arithmetic.value?, if_neg (hpow rfl)] at hop
            cases hop
  · exact .inr ⟨a, b, hx, hy, h⟩

section

variable {t : Table} {scope : Scope}

/-- What evaluating an expression comes to: its value on every row, all parts
having theirs, or a failure and a row on which a part fails or is refused. -/
def Exact (t : Table) (scope : Scope) (x : IntExpr) : Prop :=
  (∃ d value, x.toExpr.eval t scope = .ok d ∧ d.Holds t.rows value ∧ ∀ i < t.rows,
    x.value? (t.intAt i) = some (value i).toInt ∧ ∀ p ∈ x.parts, ¬p.Fails (t.intAt i)) ∨
  ∃ e, x.toExpr.eval t scope = .error e ∧ ∃ i < t.rows, ∃ p ∈ x.parts,
    p.Fails (t.intAt i) ∨ p.Refused (t.intAt i)

/-- Row by row, an expression is exact if it is where its proper parts are. -/
theorem exact_of_rowWise {x : IntExpr} {result : Except Error Datum}
    {row : Nat → Except Error Cell} (hresult : x.toExpr.eval t scope = result)
    (hrow : RowWise t.rows result row)
    (hparts : ∀ i < t.rows, ∀ p ∈ x.parts, p = x ∨ ¬p.Fails (t.intAt i))
    (hok : ∀ i < t.rows, ∀ n : Int64, row i = .ok (.int n) →
      x.value? (t.intAt i) = some n.toInt)
    (herror : ∀ i < t.rows, ∀ e, row i = .error e →
      x.Fails (t.intAt i) ∨ x.Refused (t.intAt i)) : x.Exact t scope := by
  subst hresult
  rcases hrow with ⟨d, value, heval, hd, hvalue⟩ | ⟨e, heval, i, hi, e', he'⟩
  · refine .inl ⟨d, value, heval, hd, fun i hi => ?_⟩
    have hx := hok i hi _ (hvalue i hi)
    refine ⟨hx, fun p hp => ?_⟩
    rcases hparts i hi p hp with rfl | hfine
    · exact not_fails hx
    · exact hfine
  · exact .inr ⟨e, heval, i, hi, x, x.self_mem_parts, herror i hi e' he'⟩

theorem exact_neg (hrows : 0 < t.rows) {x : IntExpr} (h : x.Exact t scope) :
    (neg x).Exact t scope := by
  have heval : (neg x).toExpr.eval t scope = (x.toExpr.eval t scope).bind UnaryOp.neg.onDatum :=
    Expr.eval_unary _ _
  rcases h with ⟨d, value, hx, hd, hvalue⟩ | ⟨e, hx, i, hi, p, hp, hfails⟩
  · rw [hx] at heval
    refine exact_of_rowWise heval (rowWise_neg hrows hd) ?_ ?_ ?_
    · intro i hi p hp
      exact (List.mem_cons.mp hp).imp_right fun hp => (hvalue i hi).2 p hp
    · intro i hi n hn
      rw [value?, (hvalue i hi).1]
      simp only [Cell.negate] at hn
      split at hn
      · next m hm =>
          cases hn
          exact congrArg some (Number.narrow?_eq_some.mp hm)
      · cases hn
    · intro i hi e he
      simp only [Cell.negate] at he
      split at he
      · cases he
      · next hnone =>
          refine .inl (.inr ⟨_, ?_, Number.narrow?_eq_none.mp hnone⟩)
          rw [value?, (hvalue i hi).1]
          rfl
  · exact .inr ⟨e, by rw [heval, hx]; rfl, i, hi, p, List.mem_cons_of_mem _ hp, hfails⟩

theorem exact_abs (hrows : 0 < t.rows) {x : IntExpr} (hreads : (abs x).Reads t scope)
    (hwraps : ∀ i < t.rows, ¬(abs x).Wraps (t.intAt i)) (h : x.Exact t scope) :
    (abs x).Exact t scope := by
  obtain ⟨hcolumn, hscope, _⟩ := hreads
  have heval : (abs x).toExpr.eval t scope =
      (x.toExpr.eval t scope).bind (Function.onNumbers "abs" Function.magnitude) := by
    have hcall : ∀ a, scope.call t.rows "abs" [a] =
        Function.onNumbers "abs" Function.magnitude a := by
      intro a
      rw [Scope.call, if_neg (by decide), hscope]
      rfl
    rw [toExpr, Expr.eval_call hcolumn, Expr.evalAll_cons]
    cases x.toExpr.eval t scope with
    | error e => rfl
    | ok a => exact hcall a
  rcases h with ⟨d, value, hx, hd, hvalue⟩ | ⟨e, hx, i, hi, p, hp, hfails⟩
  · rw [hx] at heval
    refine exact_of_rowWise heval (rowWise_abs hrows hd) ?_ ?_ ?_
    · intro i hi p hp
      exact (List.mem_cons.mp hp).imp_right fun hp => (hvalue i hi).2 p hp
    · intro i hi n hn
      cases hn
      rw [value?, (hvalue i hi).1, Number.toInt_abs]
      · rfl
      · intro hmin
        exact hwraps i hi ((hvalue i hi).1.trans (congrArg some hmin))
    · intro i hi e he
      cases he
  · exact .inr ⟨e, by rw [heval, hx]; rfl, i, hi, p, List.mem_cons_of_mem _ hp, hfails⟩

theorem exact_arith (hrows : 0 < t.rows) {op : Arithmetic} {x y : IntExpr} (hdiv : op ≠ .div)
    (hnatural : ∀ i < t.rows, (arith op x y).Natural (t.intAt i))
    (hwraps : ∀ i < t.rows, ¬(arith op x y).Wraps (t.intAt i)) (hx : x.Exact t scope)
    (hy : y.Exact t scope) : (arith op x y).Exact t scope := by
  have heval : (arith op x y).toExpr.eval t scope = (x.toExpr.eval t scope).bind fun a =>
      (y.toExpr.eval t scope).bind fun b => BinaryOp.onDatum (.arithmetic op) a b :=
    Expr.eval_binary _ _ _
  rcases hx with ⟨d, value, hx, hd, hvalue⟩ | ⟨e, hx, i, hi, p, hp, hfails⟩
  · rcases hy with ⟨d', value', hy, hd', hvalue'⟩ | ⟨e, hy, i, hi, p, hp, hfails⟩
    · have hanswers : ∀ i < t.rows, op.Answers (value i).toInt (value' i).toInt
          (op.onInts (value i) (value' i)) := by
        intro i hi
        refine Arithmetic.answers_onInts hdiv (fun hpow => ?_) fun hw => ?_
        · exact hnatural i hi hpow _ (hvalue' i hi).1
        · exact hwraps i hi ⟨_, _, (hvalue i hi).1, (hvalue' i hi).1, hw⟩
      have hint : ∀ i < t.rows, ∀ v, op.onInts (value i) (value' i) = .ok v →
          ∃ n, v = .int n := by
        intro i hi v hv
        obtain ⟨n, hn, _⟩ := (hanswers i hi).of_ok hv
        exact ⟨n, hn⟩
      rw [hx, hy] at heval
      refine exact_of_rowWise heval (rowWise_arithmetic hrows hd hd' hint) ?_ ?_ ?_
      · intro i hi p hp
        refine (List.mem_cons.mp hp).imp_right fun hp => ?_
        rcases List.mem_append.mp hp with hp | hp
        · exact (hvalue i hi).2 p hp
        · exact (hvalue' i hi).2 p hp
      · intro i hi n hn
        rw [value?, (hvalue i hi).1, (hvalue' i hi).1]
        obtain ⟨m, hm, hexact⟩ := (hanswers i hi).of_ok hn
        cases hm
        exact hexact
      · intro i hi e he
        have hreason := (hanswers i hi).of_error he
        exact fails_of_answers (hvalue i hi).1 (hvalue' i hi).1 hdiv (hnatural i hi) hreason
    · refine .inr ⟨e, by rw [heval, hx, hy]; rfl, i, hi, p, ?_, hfails⟩
      exact List.mem_cons_of_mem _ (List.mem_append_right _ hp)
  · refine .inr ⟨e, by rw [heval, hx]; rfl, i, hi, p, ?_, hfails⟩
    exact List.mem_cons_of_mem _ (List.mem_append_left _ hp)

theorem exact_column {name : String} {xs : List Int64} (hfind : t.find? name = some (.ints xs))
    (hlen : xs.length = t.rows) : (column name).Exact t scope := by
  have hget : ∀ i < t.rows, xs[i]? = some (xs.getD i 0) :=
    fun i hi => getElem?_getD (hlen ▸ hi)
  have hvalue : ∀ i < t.rows, (column name).value? (t.intAt i) = some (xs.getD i 0).toInt := by
    intro i hi
    have hcell : (Column.ints xs).get? i = some (.int (xs.getD i 0)) := by
      show (xs.map Cell.int)[i]? = _
      rw [List.getElem?_map, hget i hi]
      rfl
    rw [value?, Table.intAt, hfind, Option.bind_some, hcell]
  refine .inl ⟨.column (.ints xs), fun i => xs.getD i 0, ?_, .column hlen hget, fun i hi => ?_⟩
  · rw [toExpr, Expr.eval, hfind]
  · refine ⟨hvalue i hi, fun p hp => ?_⟩
    cases List.mem_singleton.mp hp
    exact not_fails (hvalue i hi)

/-- Evaluating is exact where no part wraps. -/
theorem exact_of_reads (hrows : 0 < t.rows) (x : IntExpr) (hreads : x.Reads t scope)
    (hparts : ∀ i < t.rows, ∀ p ∈ x.parts, p.Natural (t.intAt i) ∧ ¬p.Wraps (t.intAt i)) :
    x.Exact t scope := by
  induction x with
  | lit n =>
      refine .inl ⟨_, fun _ => n, rfl, .cell fun _ _ => rfl, fun i hi => ⟨rfl, fun p hp => ?_⟩⟩
      cases List.mem_singleton.mp hp
      exact not_fails rfl
  | column name =>
      obtain ⟨xs, hfind, hlen⟩ := hreads
      exact exact_column hfind hlen
  | neg x ih =>
      have hsub := fun i hi p hp => hparts i hi p (List.mem_cons_of_mem _ hp)
      exact exact_neg hrows (ih hreads hsub)
  | abs x ih =>
      have hsub := fun i hi p hp => hparts i hi p (List.mem_cons_of_mem _ hp)
      have hself := fun i hi => hparts i hi _ (self_mem_parts (abs x))
      exact exact_abs hrows hreads (fun i hi => (hself i hi).2) (ih hreads.2.2 hsub)
  | arith op x y ihx ihy =>
      have hleft := fun i hi p hp =>
        hparts i hi p (List.mem_cons_of_mem _ (List.mem_append_left y.parts hp))
      have hright := fun i hi p hp =>
        hparts i hi p (List.mem_cons_of_mem _ (List.mem_append_right x.parts hp))
      have hself := fun i hi => hparts i hi _ (self_mem_parts (arith op x y))
      exact exact_arith hrows hreads.1 (fun i hi => (hself i hi).1) (fun i hi => (hself i hi).2)
        (ihx hreads.2.1 hleft) (ihy hreads.2.2 hright)

/-- What wraps would not fit. -/
theorem Wraps.fails {env : String → Int} {p : IntExpr} (h : p.Wraps env) : p.Fails env := by
  have hlarge : ¬Number.InRange (2 ^ 63) := fun h => absurd h.2 (lt_irrefl _)
  cases p with
  | abs x =>
      refine .inr ⟨2 ^ 63, ?_, hlarge⟩
      have hx : x.value? env = some (-2 ^ 63) := h
      rw [value?, hx]
      rfl
  | arith op x y =>
      obtain ⟨a, b, hx, hy, rfl, rfl, rfl⟩ := h
      refine .inr ⟨2 ^ 63, ?_, hlarge⟩
      rw [value?, hx, hy]
      rfl
  | lit _ | column _ | neg _ => cases h

/-- An expression of integers fails only where on some row a part has a zero
divisor or a value that does not fit, or a power of 0, 1 or -1 is refused; and
where no part wraps on any row, a success has the exact value on every row. -/
theorem eval_exact {x : IntExpr} {t : Table} {scope : Scope} (hrows : 0 < t.rows)
    (hreads : x.Reads t scope)
    (hnatural : ∀ i < t.rows, ∀ p ∈ x.parts, p.Natural (t.intAt i)) :
    (∀ e, x.toExpr.eval t scope = .error e → ∃ i < t.rows, ∃ p ∈ x.parts,
      p.Fails (t.intAt i) ∨ p.Refused (t.intAt i)) ∧
    ∀ d, x.toExpr.eval t scope = .ok d →
      (∀ i < t.rows, ∀ p ∈ x.parts, ¬p.Wraps (t.intAt i)) →
      d.Fits t.rows ∧ ∀ i < t.rows, (∀ p ∈ x.parts, ¬p.Fails (t.intAt i)) ∧
        ∃ n : Int64, d.at? i = some (.int n) ∧ x.value? (t.intAt i) = some n.toInt := by
  constructor
  · intro e he
    -- a part that wraps is a part that fails, whatever the failure came from
    by_cases hwraps : ∃ i < t.rows, ∃ p ∈ x.parts, p.Wraps (t.intAt i)
    · obtain ⟨i, hi, p, hp, hw⟩ := hwraps
      exact ⟨i, hi, p, hp, .inl hw.fails⟩
    · have hexact := exact_of_reads hrows x hreads fun i hi p hp =>
        ⟨hnatural i hi p hp, fun hw => hwraps ⟨i, hi, p, hp, hw⟩⟩
      rcases hexact with ⟨d, _, hd, _⟩ | ⟨_, _, hfails⟩
      · rw [hd] at he
        cases he
      · exact hfails
  · intro d hd hwraps
    have hexact := exact_of_reads hrows x hreads fun i hi p hp =>
      ⟨hnatural i hi p hp, hwraps i hi p hp⟩
    rcases hexact with ⟨d', value, hd', hholds, hvalue⟩ | ⟨e, he, _⟩
    · rw [hd'] at hd
      cases hd
      refine ⟨hholds.fits, fun i hi => ⟨(hvalue i hi).2, value i, hholds.at? hi, ?_⟩⟩
      exact (hvalue i hi).1
    · rw [he] at hd
      cases hd

/-- The remainder of a negated column, which has the sign of the divisor. -/
theorem eval_exact_remainder :
    ∃ n : Int64, (Datum.column (.ints [2, 2])).at? 1 = some (.int n) ∧
      (arith .mod (neg (column "a")) (lit 3)).value?
        (Table.intAt ⟨[("a", .ints [7, -2])], [0, 1]⟩ 1) = some n.toInt := by
  have hexact := @eval_exact (arith .mod (neg (column "a")) (lit 3))
    ⟨[("a", .ints [7, -2])], [0, 1]⟩ Scope.empty (by decide)
    ⟨by decide, ⟨_, rfl, rfl⟩, trivial⟩ fun i _ => by simp [parts, Natural]
  have hwraps : ∀ i < 2, ∀ p ∈ (arith .mod (neg (column "a")) (lit 3)).parts,
      ¬p.Wraps (Table.intAt ⟨[("a", .ints [7, -2])], [0, 1]⟩ i) := by
    simp [parts, Wraps, Arithmetic.Wraps]
  exact ((hexact.2 (.column (.ints [2, 2])) rfl hwraps).2 1 (by decide)).2

/-- The least integer divided by -1 is itself and so is its magnitude, and a power
of 1 fails though none of its parts does. -/
theorem eval_inexact :
    (arith .floorDiv (column "a") (neg (lit 1))).toExpr.eval
        ⟨[("a", .ints [-9223372036854775808])], [0]⟩ Scope.empty =
      .ok (.column (.ints [-9223372036854775808])) ∧
    (arith .floorDiv (column "a") (neg (lit 1))).value?
        (Table.intAt ⟨[("a", .ints [-9223372036854775808])], [0]⟩ 0) =
      some 9223372036854775808 ∧
    (abs (column "a")).toExpr.eval ⟨[("a", .ints [-9223372036854775808])], [0]⟩ Scope.empty =
      .ok (.column (.ints [-9223372036854775808])) ∧
    (abs (column "a")).value? (Table.intAt ⟨[("a", .ints [-9223372036854775808])], [0]⟩ 0) =
      some 9223372036854775808 ∧
    (arith .pow (lit 1) (lit 4294967296)).toExpr.eval
        ⟨[("a", .ints [-9223372036854775808])], [0]⟩ Scope.empty = .error .overflow ∧
    ∀ p ∈ (arith .pow (lit 1) (lit 4294967296)).parts,
      ¬p.Fails (Table.intAt ⟨[("a", .ints [-9223372036854775808])], [0]⟩ 0) := by
  refine ⟨rfl, rfl, rfl, rfl, rfl, ?_⟩
  have hone : (arith .pow (lit 1) (lit 4294967296)).value?
      (Table.intAt ⟨[("a", .ints [-9223372036854775808])], [0]⟩ 0) = some (1 : Int64).toInt :=
    congrArg some (one_pow _)
  intro p hp
  rcases List.mem_cons.mp hp with rfl | hp
  · exact not_fails hone
  rcases List.mem_cons.mp hp with rfl | hp
  · exact not_fails rfl
  · cases List.mem_singleton.mp hp
    exact not_fails rfl

end

end IntExpr

end TableVerbs
