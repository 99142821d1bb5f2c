import TableVerbs.Proofs.NoRows

/-!
# The type of a column without rows

On rows a column of results has the type that its cells share. Without rows there
is nothing to go by but the operands, and the type is guessed from one of them: a
predicate gives truth values, and any other operator or function passes on the type
of the column that it goes through row by row, of two columns the left one.

What arithmetic and the functions do to a type is to widen it, from truth values to
integers and from these to floats. So from the column or predicate at the far end
of the guess types only widen on the way up, and a type that was widened does not
come back. The guess is right exactly if none of the steps widens: a sum of integers
keeps their type, while a quotient of integers has floats on any rows and is guessed
to have integers on none.
-/

namespace TableVerbs

/-! ## Wider types -/

namespace CellType

/-- Values of the one type can become values of the other by arithmetic, where truth values
count as well; stacking columns takes only integers to floats. -/
def Widens (a b : CellType) : Prop :=
  a = b ∨ (a = .bool ∧ b = .int) ∨ (a = .bool ∧ b = .float) ∨ (a = .int ∧ b = .float)

instance (a b : CellType) : Decidable (a.Widens b) := inferInstanceAs (Decidable (_ ∨ _))

variable {a b c : CellType}

theorem Widens.refl (a : CellType) : a.Widens a := .inl rfl

theorem Widens.trans (hab : a.Widens b) (hbc : b.Widens c) : a.Widens c := by
  revert hab hbc
  cases a <;> cases b <;> cases c <;> decide

theorem Widens.antisymm (hab : a.Widens b) (hba : b.Widens a) : a = b := by
  revert hab hba
  cases a <;> cases b <;> decide

theorem widens_number (ha : a = .int ∨ a = .bool) (hb : b = .int ∨ b = .float) :
    a.Widens b := by
  rcases ha with rfl | rfl <;> rcases hb with rfl | rfl <;> decide

theorem widens_float (h : a ≠ .str) : a.Widens .float := by
  cases a with
  | int | float | bool => decide
  | str => exact absurd rfl h

/-- Two steps come back to the type they started from only if both stay there. -/
theorem Widens.eq_iff (hab : a.Widens b) (hbc : b.Widens c) : a = c ↔ a = b ∧ b = c := by
  constructor
  · intro hac
    have hba : b.Widens a := hac ▸ hbc
    have heq : a = b := hab.antisymm hba
    exact ⟨heq, heq ▸ hac⟩
  · intro ⟨heq, heq'⟩
    exact heq.trans heq'

end CellType

/-! ## Columns of results -/

namespace Column

theorem widens_of_fitsType {v : Cell} {type : CellType} (h : fitsType v type) :
    v.type.Widens type := by
  revert h
  cases v <;> cases type <;> simp [fitsType, Cell.int?, Cell.float?, Cell.bool?, Cell.str?,
    Cell.type, CellType.Widens]

theorem common?_of_type {cells : List Cell} {type : CellType} (hne : cells ≠ [])
    (h : ∀ v ∈ cells, v.type = type) : common? cells = some type := by
  have hall := all_of_type hne h
  have hisNumber : isNumber = fun v : Cell => v.type == .int || v.type == .float := rfl
  simp only [common?, hisNumber, hall (· == .int), hall (· == .bool), hall (· == .str),
    hall fun type => type == .int || type == .float]
  cases type <;> rfl

theorem Collects.imp {c : Column} {made made' : Cell → Prop} (h : c.Collects made)
    (himp : ∀ v, made v → made' v) : c.Collects made' := by
  obtain ⟨vs, hne, hcommon, hall⟩ := h
  exact ⟨vs, hne, hcommon, fun v hv => himp v (hall v hv)⟩

/-- Cells of one type make a column of it. -/
theorem Collects.type_eq {c : Column} {type : CellType} (h : c.Collects (·.type = type)) :
    c.type = type := by
  obtain ⟨vs, hne, hcommon, hall⟩ := h
  rw [common?_of_type hne hall] at hcommon
  cases hcommon
  rfl

/-- Cells of wider types make a column of one. -/
theorem Collects.widens {c : Column} {type : CellType}
    (h : c.Collects fun v => type.Widens v.type) : type.Widens c.type := by
  obtain ⟨vs, hne, hcommon, hall⟩ := h
  obtain ⟨v, rest, rfl⟩ := List.exists_cons_of_ne_nil hne
  have hfits := fitsType_of_common? hcommon v List.mem_cons_self
  exact (hall v List.mem_cons_self).trans (widens_of_fitsType hfits)

theorem collects_of_mapCells {c d : Column} {otherwise : CellType} {f : Cell → Except Error Cell}
    (hc : 0 < c.length) (h : c.mapCells otherwise f = .ok d) :
    d.Collects fun v => ∃ x, x.type = c.type ∧ f x = .ok v := by
  rw [mapCells_eq] at h
  refine (collects_of_collect (cells_ne_nil hc) h).imp ?_
  intro v ⟨x, hx, hfx⟩
  exact ⟨x, type_of_mem_cells hx, hfx⟩

end Column

/-! ## Operators -/

/-- Arithmetic widens the types of both operands. -/
theorem Arithmetic.widens_apply {op : Arithmetic} {a b v : Cell} (h : op.apply a b = .ok v) :
    a.type.Widens v.type ∧ b.type.Widens v.type := by
  cases a with
  | int x | bool x =>
      cases b with
      | int y | bool y =>
          have htype : v.type = .int ∨ v.type = .float := type_onInts_number h
          constructor <;> exact CellType.widens_number (by simp [Cell.type]) htype
      | float y =>
          cases h
          exact ⟨CellType.widens_float (by simp [Cell.type]), .refl _⟩
      | str y => cases h
  | float x =>
      cases b with
      | int y | bool y | float y =>
          cases h
          exact ⟨.refl _, CellType.widens_float (by simp [Cell.type])⟩
      | str y => cases h
  | str x =>
      cases b with
      | str y =>
          simp only [apply] at h
          split at h
          · cases h
            exact ⟨.refl _, .refl _⟩
          · cases h
      | int y | bool y | float y => cases h

namespace Datum

/-- The type that a column has, none for a cell. -/
def columnType? : Datum → Option CellType
  | .cell _ => none
  | .column c => some c.type

theorem fits_zero {a : Datum} (h : a.Fits 0) :
    (∃ x, a = .cell x) ∨ ∃ type, a = .column (.empty type) := by
  cases a with
  | cell x => exact .inl ⟨x, rfl⟩
  | column c =>
      refine .inr ⟨c.type, congrArg column ?_⟩
      have hlen : c.length = 0 := h
      cases c with
      | ints xs | floats xs | bools xs | strs xs =>
          rw [List.length_eq_zero_iff.mp hlen]
          rfl

end Datum

/-- A value that is there without rows, and the type it has if it is a column. -/
def TypedEmpty (result : Except Error Datum) (type? : Option CellType) : Prop :=
  ∀ v, result = .ok v → v.Fits 0 ∧ v.columnType? = type?

theorem typedEmpty_cell (result : Except Error Cell) : TypedEmpty (result.map .cell) none := by
  intro v hv
  obtain ⟨x, _, rfl⟩ := map_eq_ok.mp hv
  exact ⟨trivial, rfl⟩

theorem typedEmpty_column (type : CellType) :
    TypedEmpty (.ok (.column (.empty type))) (some type) := by
  intro v hv
  cases hv
  exact ⟨Column.length_empty type, congrArg some (Column.type_empty type)⟩

theorem typedEmpty_mapCells (type otherwise : CellType) (f : Cell → Except Error Cell) :
    TypedEmpty (((Column.empty type).mapCells otherwise f).map .column) (some otherwise) := by
  rw [Column.mapCells_empty]
  exact typedEmpty_column otherwise

/-- Without rows an operator passes on the type of its operand. -/
theorem UnaryOp.typedEmpty (op : UnaryOp) {a : Datum} (ha : a.Fits 0) :
    TypedEmpty (op.onDatum a) a.columnType? := by
  rcases Datum.fits_zero ha with ⟨x, rfl⟩ | ⟨type, rfl⟩
  · exact typedEmpty_cell _
  · exact typedEmpty_mapCells type _ _

theorem BinaryOp.typedEmpty (op : BinaryOp) {a b : Datum} (ha : a.Fits 0) (hb : b.Fits 0) :
    TypedEmpty (op.onDatum a b)
      ((a.columnType?.or b.columnType?).map op.typeWithoutRows) := by
  rcases Datum.fits_zero ha with ⟨x, rfl⟩ | ⟨type, rfl⟩
  · rcases Datum.fits_zero hb with ⟨y, rfl⟩ | ⟨type, rfl⟩
    · exact typedEmpty_cell _
    · exact typedEmpty_mapCells type _ _
  · rcases Datum.fits_zero hb with ⟨y, rfl⟩ | ⟨type', rfl⟩
    · exact typedEmpty_mapCells type _ _
    · rw [onColumns_eq op (by simp)]
      simp only [Column.cells_empty]
      exact typedEmpty_column _

/-! ## On rows -/

theorem UnaryOp.type_onDatum {op : UnaryOp} {c d : Column} (hc : 0 < c.length)
    (h : op.onDatum (.column c) = .ok (.column d)) : d.type = c.type := by
  obtain ⟨e, he, heq⟩ := map_eq_ok.mp h
  cases heq
  refine ((Column.collects_of_mapCells hc he).imp ?_).type_eq
  intro v ⟨x, hx, hv⟩
  rw [type_apply hv, hx]

theorem BinaryOp.column_of_left {op : BinaryOp} {c : Column} {b v : Datum}
    (h : op.onDatum (.column c) b = .ok v) : ∃ d, v = .column d := by
  cases b with
  | cell y =>
      obtain ⟨d, _, rfl⟩ := map_eq_ok.mp h
      exact ⟨d, rfl⟩
  | column e =>
      rw [onDatum] at h
      split at h
      · cases h
      · split at h
        · cases h
        · obtain ⟨d, _, rfl⟩ := map_eq_ok.mp h
          exact ⟨d, rfl⟩

/-- A result on rows, cell by cell. -/
theorem BinaryOp.collects_onDatum {op : BinaryOp} (hn : 0 < n) {a b : Datum} (ha : a.Fits n)
    (hb : b.Fits n) {d : Column} (h : op.onDatum a b = .ok (.column d)) :
    d.Collects fun v => ∃ x y, op.apply x y = .ok v ∧
      (∀ type ∈ a.columnType?, x.type = type) ∧ ∀ type ∈ b.columnType?, y.type = type := by
  cases a with
  | cell x =>
      cases b with
      | cell y =>
          obtain ⟨_, _, heq⟩ := map_eq_ok.mp h
          cases heq
      | column e =>
          obtain ⟨_, hd, heq⟩ := map_eq_ok.mp h
          cases heq
          refine (Column.collects_of_mapCells (hb ▸ hn) hd).imp ?_
          intro v ⟨y, hy, hv⟩
          exact ⟨x, y, hv, nofun, fun _ htype => hy.trans (Option.some.inj htype)⟩
  | column c =>
      cases b with
      | cell y =>
          obtain ⟨_, hd, heq⟩ := map_eq_ok.mp h
          cases heq
          refine (Column.collects_of_mapCells (ha ▸ hn) hd).imp ?_
          intro v ⟨x, hx, hv⟩
          exact ⟨x, y, hv, fun _ htype => hx.trans (Option.some.inj htype), nofun⟩
      | column e =>
          have hlen : c.length = e.length := Eq.trans ha hb.symm
          rw [onColumns_eq op hlen] at h
          obtain ⟨_, hd, heq⟩ := map_eq_ok.mp h
          cases heq
          have hcells := Column.zip_cells_ne_nil hlen (ha ▸ hn)
          refine (Column.collects_of_collect hcells hd).imp ?_
          intro v ⟨pair, hpair, hv⟩
          have hx := Column.type_of_mem_cells (List.of_mem_zip hpair).1
          have hy := Column.type_of_mem_cells (List.of_mem_zip hpair).2
          exact ⟨pair.1, pair.2, hv, fun _ htype => hx.trans (Option.some.inj htype),
            fun _ htype => hy.trans (Option.some.inj htype)⟩

theorem BinaryOp.type_predicate {op : BinaryOp} (hop : op.isPredicate = true) {a b v : Cell}
    (h : op.apply a b = .ok v) : v.type = .bool := by
  cases op with
  | arithmetic op => cases hop
  | comparison op | connective op =>
      obtain ⟨_, _, rfl⟩ := map_eq_ok.mp h
      rfl

theorem BinaryOp.widens_apply {op : BinaryOp} (hop : op.isPredicate = false) {a b v : Cell}
    (h : op.apply a b = .ok v) : a.type.Widens v.type ∧ b.type.Widens v.type := by
  cases op with
  | arithmetic op => exact Arithmetic.widens_apply h
  | comparison op | connective op => cases hop

/-! ## Functions -/

namespace Function

/-- A function that gives numbers for numbers, of the same type or a wider one. -/
def WidensNumbers (f : Cell → Cell) : Prop :=
  ∀ v, Column.isNumber v = true → v.type.Widens (f v).type

theorem widensNumbers_onFloat (f : Float → Float) : WidensNumbers (onFloat f) := by
  intro v hv
  rw [type_onFloat]
  refine CellType.widens_float ?_
  intro hstr
  simp [Column.isNumber, hstr] at hv

theorem widensNumbers_magnitude : WidensNumbers magnitude := by
  intro v hv
  cases v with
  | int x | float x => exact .refl _
  | bool x | str x => cases hv

theorem widensNumbers_roundTo (places : Int64) : WidensNumbers (roundTo places) := by
  intro v hv
  rw [roundTo]
  split
  · exact .refl _
  · exact widensNumbers_onFloat _ v hv

theorem ofNumber_eq_ok {name : String} {f : Cell → Cell} {data : List Datum} {v : Datum}
    (h : ofNumber name f data = .ok v) : ∃ a, data = [a] ∧ onNumbers name f a = .ok v := by
  match data with
  | [] | _ :: _ :: _ => cases h
  | [a] => exact ⟨a, rfl, h⟩

theorem round_eq_ok {data : List Datum} {v : Datum} (h : round data = .ok v) :
    ∃ a rest places, data = a :: rest ∧ onNumbers "round" (roundTo places) a = .ok v := by
  unfold round at h
  split at h
  · exact ⟨_, _, 0, rfl, h⟩
  · exact ⟨_, _, _, rfl, h⟩
  · cases h

/-- A built-in function goes through its first argument. -/
theorem builtin_eq_ok {name : String} {f : Function} (hf : builtin? name = some f)
    {data : List Datum} {v : Datum} (hv : f data = .ok v) :
    ∃ g a rest, data = a :: rest ∧ onNumbers name g a = .ok v ∧ WidensNumbers g := by
  have hnumber : ∀ {g : Cell → Cell}, WidensNumbers g → ofNumber name g data = .ok v →
      ∃ g a rest, data = a :: rest ∧ onNumbers name g a = .ok v ∧ WidensNumbers g := by
    intro g hg h
    obtain ⟨a, hdata, ha⟩ := ofNumber_eq_ok h
    exact ⟨g, a, [], hdata, ha, hg⟩
  unfold builtin? at hf
  split at hf <;> cases hf
  · exact hnumber widensNumbers_magnitude hv
  · exact hnumber (widensNumbers_onFloat _) hv
  · exact hnumber (widensNumbers_onFloat _) hv
  · exact hnumber (widensNumbers_onFloat _) hv
  · obtain ⟨a, rest, places, hdata, ha⟩ := round_eq_ok hv
    exact ⟨roundTo places, a, rest, hdata, ha, widensNumbers_roundTo places⟩

theorem typedEmpty_onNumbers (name : String) (g : Cell → Cell) {a : Datum} (ha : a.Fits 0) :
    TypedEmpty (onNumbers name g a) a.columnType? := by
  rcases Datum.fits_zero ha with ⟨x, rfl⟩ | ⟨type, rfl⟩
  · exact typedEmpty_cell _
  · exact typedEmpty_mapCells type _ _

theorem widens_onNumbers {name : String} {g : Cell → Cell} (hg : WidensNumbers g) {c d : Column}
    (hc : 0 < c.length) (h : onNumbers name g (.column c) = .ok (.column d)) :
    c.type.Widens d.type := by
  obtain ⟨_, hd, heq⟩ := map_eq_ok.mp h
  cases heq
  refine ((Column.collects_of_mapCells hc hd).imp ?_).widens
  intro v ⟨x, hx, hv⟩
  split at hv
  · next hnumber =>
      cases hv
      rw [← hx]
      exact hg x hnumber
  · cases hv

end Function

/-! ## Expressions -/

/-- The type that an expression's column has without rows, none for a cell: that of
a column of the table, passed on through operands and first arguments. -/
def Expr.typeWithoutRows (t : Table) : Expr → Option CellType
  | .lit _ => none
  | .column name => (t.find? name).map Column.type
  | .call _ [] => none
  | .call _ (x :: _) => x.typeWithoutRows t
  | .unary _ x => x.typeWithoutRows t
  | .binary op x y => ((x.typeWithoutRows t).or (y.typeWithoutRows t)).map op.typeWithoutRows

variable {t : Table} {scope : Scope}

/-- Two expressions have columns of one type. -/
def Expr.SameType (t : Table) (scope : Scope) (x y : Expr) : Prop :=
  ∃ c d, x.eval t scope = .ok (.column c) ∧ y.eval t scope = .ok (.column d) ∧ c.type = d.type

/-- On the way from the column or predicate that the type of an expression is guessed
from, no step widens it. -/
inductive Expr.KeepsType (t : Table) (scope : Scope) : Expr → Prop
  | column (name : String) : KeepsType t scope (.column name)
  | predicate {op : BinaryOp} (h : op.isPredicate = true) (x y : Expr) :
      KeepsType t scope (.binary op x y)
  | unary (op : UnaryOp) {x : Expr} (h : KeepsType t scope x) : KeepsType t scope (.unary op x)
  | left {op : BinaryOp} {x y : Expr} (h : KeepsType t scope x)
      (hsame : x.SameType t scope (.binary op x y)) : KeepsType t scope (.binary op x y)
  | right {op : BinaryOp} {x y : Expr} {v : Cell} (hx : x.eval t scope = .ok (.cell v))
      (h : KeepsType t scope y) (hsame : y.SameType t scope (.binary op x y)) :
      KeepsType t scope (.binary op x y)
  | call {name : String} {x : Expr} {args : List Expr} (h : KeepsType t scope x)
      (hsame : x.SameType t scope (.call name (x :: args))) :
      KeepsType t scope (.call name (x :: args))

/-- A call goes through the value of its first argument. -/
theorem Expr.eval_call_ok {name : String} {args : List Expr}
    (h : scope.Untouched (Expr.call name args).calls) {v : Datum}
    (hv : (Expr.call name args).eval t scope = .ok v) :
    ∃ x xs a g, args = x :: xs ∧ x.eval t scope = .ok a ∧
      Function.onNumbers name g a = .ok v ∧ Function.WidensNumbers g := by
  obtain ⟨hname, hfind⟩ := h name List.mem_cons_self
  rw [Expr.eval] at hv
  split at hv
  · cases hv
  · split at hv
    · cases hv
    · next data hdata =>
        simp only [Scope.call, if_neg hname, hfind, Option.none_or] at hv
        split at hv
        · next f hf =>
            obtain ⟨g, a, rest, rfl, hg, hwidens⟩ := Function.builtin_eq_ok hf hv
            cases args with
            | nil => cases hdata
            | cons x xs =>
                rw [Expr.evalAll_cons] at hdata
                obtain ⟨a', ha', hrest⟩ := bind_eq_ok.mp hdata
                obtain ⟨_, _, heq⟩ := map_eq_ok.mp hrest
                cases heq
                exact ⟨x, xs, a, g, rfl, ha', hg, hwidens⟩
        · cases hv

/-- What an expression has without rows is of the type that is guessed for it. -/
theorem Expr.typedEmpty_eval (x : Expr) (h : scope.Untouched x.calls) :
    TypedEmpty (x.eval (t.gather []) scope) (x.typeWithoutRows t) := by
  intro v hv
  cases x with
  | lit w => exact typedEmpty_cell (.ok w) v hv
  | column name =>
      rw [Expr.eval, Table.find?_gather] at hv
      rw [typeWithoutRows]
      cases hfind : t.find? name with
      | none =>
          rw [hfind] at hv
          cases hv
      | some c =>
          rw [hfind, Option.map_some, Column.take_nil] at hv
          exact typedEmpty_column c.type v hv
  | call name args =>
      obtain ⟨x, xs, a, g, rfl, ha, hg, _⟩ := Expr.eval_call_ok h hv
      have hx : scope.Untouched x.calls :=
        h.mono (List.subset_cons_of_subset _ (List.subset_append_left _ _))
      obtain ⟨hfits, htype⟩ := Expr.typedEmpty_eval x hx a ha
      rw [typeWithoutRows, ← htype]
      exact Function.typedEmpty_onNumbers name g hfits v hg
  | unary op x =>
      rw [Expr.eval_unary] at hv
      obtain ⟨a, ha, hop⟩ := bind_eq_ok.mp hv
      obtain ⟨hfits, htype⟩ := Expr.typedEmpty_eval x h a ha
      rw [typeWithoutRows, ← htype]
      exact op.typedEmpty hfits v hop
  | binary op x y =>
      rw [Expr.eval_binary] at hv
      obtain ⟨a, ha, hright⟩ := bind_eq_ok.mp hv
      obtain ⟨b, hb, hop⟩ := bind_eq_ok.mp hright
      have hx : scope.Untouched x.calls := h.mono (List.subset_append_left _ _)
      have hy : scope.Untouched y.calls := h.mono (List.subset_append_right _ _)
      obtain ⟨hfits, htype⟩ := Expr.typedEmpty_eval x hx a ha
      obtain ⟨hfits', htype'⟩ := Expr.typedEmpty_eval y hy b hb
      rw [typeWithoutRows, ← htype, ← htype']
      exact op.typedEmpty hfits hfits' v hop
termination_by x

/-- A value and a guess at its type, none for a cell: the guess is not too wide, and it is
right on a certain condition. -/
def Datum.Guessed (guess : Option CellType) (right : Prop) : Datum → Prop
  | .cell _ => guess = none
  | .column c => ∃ type, guess = some type ∧ type.Widens c.type ∧ (type = c.type ↔ right)

/-- A step that passes the guess on and may widen the type. -/
theorem Datum.Guessed.step {guess : Option CellType} {right right' : Prop} {c d : Column}
    (h : (Datum.column c).Guessed guess right) (hwidens : c.type.Widens d.type)
    (hright : right' ↔ right ∧ c.type = d.type) : (Datum.column d).Guessed guess right' := by
  obtain ⟨type, hguess, htype, hiff⟩ := h
  refine ⟨type, hguess, htype.trans hwidens, ?_⟩
  rw [hright, ← hiff]
  exact htype.eq_iff hwidens

theorem Expr.sameType_iff {x y : Expr} {c d : Column} (hx : x.eval t scope = .ok (.column c))
    (hy : y.eval t scope = .ok (.column d)) : x.SameType t scope y ↔ c.type = d.type := by
  constructor
  · intro ⟨c', d', hx', hy', htype⟩
    cases hx.symm.trans hx'
    cases hy.symm.trans hy'
    exact htype
  · intro htype
    exact ⟨c, d, hx, hy, htype⟩

theorem Expr.keepsType_call {name : String} {x : Expr} {xs : List Expr} {c d : Column}
    (hx : x.eval t scope = .ok (.column c))
    (hcall : (Expr.call name (x :: xs)).eval t scope = .ok (.column d)) :
    (Expr.call name (x :: xs)).KeepsType t scope ↔ x.KeepsType t scope ∧ c.type = d.type := by
  rw [← sameType_iff hx hcall]
  constructor
  · intro h
    cases h with
    | call hkeeps hsame => exact ⟨hkeeps, hsame⟩
  · intro ⟨hkeeps, hsame⟩
    exact .call hkeeps hsame

theorem Expr.keepsType_left {op : BinaryOp} (hop : op.isPredicate = false) {x y : Expr}
    {c d : Column} (hx : x.eval t scope = .ok (.column c))
    (hbinary : (Expr.binary op x y).eval t scope = .ok (.column d)) :
    (Expr.binary op x y).KeepsType t scope ↔ x.KeepsType t scope ∧ c.type = d.type := by
  rw [← sameType_iff hx hbinary]
  constructor
  · intro h
    cases h with
    | predicate hpredicate => cases hop.symm.trans hpredicate
    | left hkeeps hsame => exact ⟨hkeeps, hsame⟩
    | right hcell => cases hx.symm.trans hcell
  · intro ⟨hkeeps, hsame⟩
    exact .left hkeeps hsame

theorem Expr.keepsType_right {op : BinaryOp} (hop : op.isPredicate = false) {x y : Expr}
    {v : Cell} {c d : Column} (hx : x.eval t scope = .ok (.cell v))
    (hy : y.eval t scope = .ok (.column c))
    (hbinary : (Expr.binary op x y).eval t scope = .ok (.column d)) :
    (Expr.binary op x y).KeepsType t scope ↔ y.KeepsType t scope ∧ c.type = d.type := by
  rw [← sameType_iff hy hbinary]
  constructor
  · intro h
    cases h with
    | predicate hpredicate => cases hop.symm.trans hpredicate
    | left _ hsame =>
        obtain ⟨_, _, hcolumn, _⟩ := hsame
        cases hx.symm.trans hcolumn
    | right _ hkeeps hsame => exact ⟨hkeeps, hsame⟩
  · intro ⟨hkeeps, hsame⟩
    exact .right hx hkeeps hsame

theorem BinaryOp.typeWithoutRows_of_predicate {op : BinaryOp} (hop : op.isPredicate = true) :
    op.typeWithoutRows = fun _ => .bool := by
  funext type
  rw [typeWithoutRows, if_pos hop]

theorem BinaryOp.typeWithoutRows_of_arithmetic {op : BinaryOp} (hop : op.isPredicate = false) :
    op.typeWithoutRows = id := by
  funext type
  rw [typeWithoutRows, if_neg (by simp [hop])]
  rfl

/-- A predicate has truth values on rows, and they are guessed. -/
theorem Expr.guessed_predicate {op : BinaryOp} (hop : op.isPredicate = true) (hn : 0 < n)
    {x y : Expr} {a b : Datum} (ha : a.Fits n) (hb : b.Fits n) {d : Column}
    (hd : op.onDatum a b = .ok (.column d)) {type : CellType}
    (hguess : (x.typeWithoutRows t).or (y.typeWithoutRows t) = some type) :
    (Datum.column d).Guessed ((Expr.binary op x y).typeWithoutRows t)
      ((Expr.binary op x y).KeepsType t scope) := by
  have hbool : d.type = .bool := by
    refine ((op.collects_onDatum hn ha hb hd).imp ?_).type_eq
    intro v ⟨_, _, hv, _⟩
    exact BinaryOp.type_predicate hop hv
  refine ⟨.bool, ?_, .inl hbool.symm, fun _ => .predicate hop x y, fun _ => hbool.symm⟩
  rw [typeWithoutRows, hguess, BinaryOp.typeWithoutRows_of_predicate hop]
  rfl

/-- Any other operator passes on the guess for its left operand, unless this is a cell. -/
theorem Expr.guessed_left {op : BinaryOp} (hop : op.isPredicate = false) (hn : 0 < n)
    {x y : Expr} {c d : Column} {b : Datum} (hx : x.eval t scope = .ok (.column c))
    (hbinary : (Expr.binary op x y).eval t scope = .ok (.column d))
    (hc : (Datum.column c).Fits n) (hb : b.Fits n)
    (hd : op.onDatum (.column c) b = .ok (.column d))
    (hguess : (Datum.column c).Guessed (x.typeWithoutRows t) (x.KeepsType t scope)) :
    (Datum.column d).Guessed ((Expr.binary op x y).typeWithoutRows t)
      ((Expr.binary op x y).KeepsType t scope) := by
  have hwidens : c.type.Widens d.type := by
    refine ((op.collects_onDatum hn hc hb hd).imp ?_).widens
    intro v ⟨_, _, hv, htype, _⟩
    exact htype c.type rfl ▸ (BinaryOp.widens_apply hop hv).1
  have ⟨type, hsome, _⟩ := hguess
  rw [typeWithoutRows, BinaryOp.typeWithoutRows_of_arithmetic hop, hsome]
  rw [hsome] at hguess
  exact hguess.step hwidens (keepsType_left hop hx hbinary)

theorem Expr.guessed_right {op : BinaryOp} (hop : op.isPredicate = false) (hn : 0 < n)
    {x y : Expr} {u : Cell} {c d : Column} (hx : x.eval t scope = .ok (.cell u))
    (hy : y.eval t scope = .ok (.column c))
    (hbinary : (Expr.binary op x y).eval t scope = .ok (.column d))
    (hc : (Datum.column c).Fits n) (hd : op.onDatum (.cell u) (.column c) = .ok (.column d))
    (hnone : x.typeWithoutRows t = none)
    (hguess : (Datum.column c).Guessed (y.typeWithoutRows t) (y.KeepsType t scope)) :
    (Datum.column d).Guessed ((Expr.binary op x y).typeWithoutRows t)
      ((Expr.binary op x y).KeepsType t scope) := by
  have hwidens : c.type.Widens d.type := by
    have hcell : (Datum.cell u).Fits n := trivial
    refine ((op.collects_onDatum hn hcell hc hd).imp ?_).widens
    intro v ⟨_, _, hv, _, htype⟩
    exact htype c.type rfl ▸ (BinaryOp.widens_apply hop hv).2
  rw [typeWithoutRows, BinaryOp.typeWithoutRows_of_arithmetic hop, hnone, Option.none_or,
    Option.map_id, id]
  exact hguess.step hwidens (keepsType_right hop hx hy hbinary)

/-- What an operator makes of operands with guesses at their types. -/
theorem Expr.guessed_binary {op : BinaryOp} {x y : Expr} {a b v : Datum} (hn : 0 < n)
    (hx : x.eval t scope = .ok a) (hy : y.eval t scope = .ok b) (ha : a.Fits n) (hb : b.Fits n)
    (hv : op.onDatum a b = .ok v)
    (hguess : a.Guessed (x.typeWithoutRows t) (x.KeepsType t scope))
    (hguess' : b.Guessed (y.typeWithoutRows t) (y.KeepsType t scope)) :
    v.Guessed ((Expr.binary op x y).typeWithoutRows t)
      ((Expr.binary op x y).KeepsType t scope) := by
  have hbinary : (Expr.binary op x y).eval t scope = .ok v := by
    rw [eval_binary, hx, hy]
    exact hv
  cases a with
  | cell u =>
      have hnone : x.typeWithoutRows t = none := hguess
      cases b with
      | cell w =>
          have hnone' : y.typeWithoutRows t = none := hguess'
          obtain ⟨_, _, rfl⟩ := map_eq_ok.mp hv
          show (Expr.binary op x y).typeWithoutRows t = none
          rw [typeWithoutRows, hnone, hnone']
          rfl
      | column e =>
          have ⟨type, hsome, _⟩ := hguess'
          obtain ⟨d, _, rfl⟩ := map_eq_ok.mp hv
          cases hop : op.isPredicate with
          | true => exact guessed_predicate hop hn ha hb hv (by rw [hnone, hsome]; rfl)
          | false => exact guessed_right hop hn hx hy hbinary hb hv hnone hguess'
  | column c =>
      have ⟨type, hsome, _⟩ := hguess
      obtain ⟨d, rfl⟩ : ∃ d, v = .column d := op.column_of_left hv
      cases hop : op.isPredicate with
      | true => exact guessed_predicate hop hn ha hb hv (by rw [hsome]; rfl)
      | false => exact guessed_left hop hn hx hbinary ha hb hv hguess

/-- The type on rows and the type guessed without, for a whole expression. -/
theorem Expr.guessed_eval (hlen : t.Rectangular) (hn : 0 < t.rows) (x : Expr)
    (h : scope.Untouched x.calls) {v : Datum} (hv : x.eval t scope = .ok v) :
    v.Guessed (x.typeWithoutRows t) (x.KeepsType t scope) := by
  -- the recursion is on the expression; of a call only the first argument is followed, since
  -- the rows and the guess both come from it
  cases x with
  | lit w =>
      cases hv
      rfl
  | column name =>
      rw [Expr.eval] at hv
      split at hv
      · next c hfind =>
          cases hv
          rw [typeWithoutRows, hfind]
          exact ⟨c.type, rfl, .refl _, fun _ => .column name, fun _ => rfl⟩
      · cases hv
  | call name args =>
      obtain ⟨x, xs, a, g, rfl, ha, hg, hwidens⟩ := Expr.eval_call_ok h hv
      have hx : scope.Untouched x.calls :=
        h.mono (List.subset_cons_of_subset _ (List.subset_append_left _ _))
      have hguess := Expr.guessed_eval hlen hn x hx ha
      rw [typeWithoutRows]
      cases a with
      | cell w =>
          obtain ⟨_, _, rfl⟩ := map_eq_ok.mp hg
          exact hguess
      | column c =>
          obtain ⟨d, _, rfl⟩ := map_eq_ok.mp hg
          have hc : c.length = t.rows := Expr.fits_eval hlen hn hx.unknown ha
          exact hguess.step (Function.widens_onNumbers hwidens (hc ▸ hn) hg)
            (Expr.keepsType_call ha hv)
  | unary op x =>
      rw [Expr.eval_unary] at hv
      obtain ⟨a, ha, hop⟩ := bind_eq_ok.mp hv
      have hx : scope.Untouched x.calls := h
      have hguess := Expr.guessed_eval hlen hn x hx ha
      rw [typeWithoutRows]
      cases a with
      | cell w =>
          obtain ⟨_, _, rfl⟩ := map_eq_ok.mp hop
          exact hguess
      | column c =>
          obtain ⟨d, _, rfl⟩ := map_eq_ok.mp hop
          have hc : c.length = t.rows := Expr.fits_eval hlen hn hx.unknown ha
          have htype : c.type = d.type := (op.type_onDatum (hc ▸ hn) hop).symm
          refine hguess.step (.inl htype) ⟨fun hkeeps => ?_, fun hkeeps => .unary op hkeeps.1⟩
          cases hkeeps with
          | unary _ hkeeps => exact ⟨hkeeps, htype⟩
  | binary op x y =>
      rw [Expr.eval_binary] at hv
      obtain ⟨a, ha, hright⟩ := bind_eq_ok.mp hv
      obtain ⟨b, hb, hop⟩ := bind_eq_ok.mp hright
      have hx : scope.Untouched x.calls := h.mono (List.subset_append_left _ _)
      have hy : scope.Untouched y.calls := h.mono (List.subset_append_right _ _)
      exact Expr.guessed_binary hn ha hb (Expr.fits_eval hlen hn hx.unknown ha)
        (Expr.fits_eval hlen hn hy.unknown hb) hop (Expr.guessed_eval hlen hn x hx ha)
        (Expr.guessed_eval hlen hn y hy hb)
termination_by x

theorem Table.head_zero (t : Table) : t.head 0 = t.gather [] := by
  rw [head, headPositions, Nat.zero_min]
  rfl

/-- Without rows an expression that has a column on rows has an empty one, of a type that
the columns of the table settle. It is the type of the column on rows or a narrower one,
and it is the same exactly if no step widens it. -/
theorem Expr.eval_head_zero {x : Expr} {t : Table} {scope : Scope} (hlen : t.Rectangular)
    (hrows : 0 < t.rows) (hscope : scope.Untouched x.calls) {c : Column}
    (hc : x.eval t scope = .ok (.column c)) :
    ∃ type, x.eval (t.head 0) scope = .ok (.column (.empty type)) ∧
      x.typeWithoutRows t = some type ∧ type.Widens c.type ∧
      (type = c.type ↔ x.KeepsType t scope) := by
  obtain ⟨type, hguess, hwidens, hright⟩ := guessed_eval hlen hrows x hscope hc
  obtain ⟨w, hw, hemptied⟩ := hasEmptied_eval hlen hrows x hscope _ hc
  obtain ⟨-, htype⟩ := typedEmpty_eval x hscope w hw
  cases hemptied with
  | @column _ type' _ =>
      rw [hguess] at htype
      have heq : type' = type := (Column.type_empty type').symm.trans (Option.some.inj htype)
      rw [t.head_zero, hw, heq]
      exact ⟨type, rfl, hguess, hwidens, hright⟩

/-- A sum of integers, where neither of two steps widens the type. -/
theorem Expr.eval_head_zero_sum :
    (Expr.binary (.arithmetic .add) (.call "abs" [.column "x"]) (.lit (.int 1))).eval
      (Table.head 0 ⟨[("x", .ints [1, -4])], [0, 1]⟩) Scope.empty =
        .ok (.column (.empty .int)) := by
  have hscope : Scope.empty.Untouched ["abs"] := by
    intro name hname
    cases List.mem_singleton.mp hname
    exact ⟨by decide, rfl⟩
  have hwf : Table.WellFormed ⟨[("x", .ints [1, -4])], [0, 1]⟩ := ⟨by decide, by decide⟩
  obtain ⟨type, heval, -, -, hright⟩ := Expr.eval_head_zero
    (x := .binary (.arithmetic .add) (.call "abs" [.column "x"]) (.lit (.int 1)))
    (c := .ints [2, 5]) hwf.lengths (by decide) hscope rfl
  have hkeeps : type = .int := by
    refine hright.mpr (.left (.call (.column "x") ?_) ?_)
    · exact ⟨.ints [1, -4], .ints [1, 4], rfl, rfl, rfl⟩
    · exact ⟨.ints [1, 4], .ints [2, 5], rfl, rfl, rfl⟩
  rw [heval, hkeeps]

/-- A quotient of integers has floats on rows and integers without. -/
theorem Expr.quotient_without_rows :
    (Expr.binary (.arithmetic .div) (.column "x") (.lit (.int 2))).eval
        ⟨[("x", .ints [1])], [0]⟩ Scope.empty = .ok (.column (.floats [0.5])) ∧
      (Expr.binary (.arithmetic .div) (.column "x") (.lit (.int 2))).eval
        (Table.head 0 ⟨[("x", .ints [1])], [0]⟩) Scope.empty = .ok (.column (.ints [])) := by
  constructor
  · decide +kernel
  · rfl

end TableVerbs
