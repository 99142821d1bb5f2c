import Mathlib
import TableVerbs.Proofs.GroupedRows
import TableVerbs.Proofs.NoRows
import TableVerbs.Proofs.PickedTables
import TableVerbs.Proofs.TokenBoundaries
import TableVerbs.Session

/-!
# Consecutive queries

Keeping the rows where one condition holds, and of these the ones where another
holds, is keeping the rows where both do. The two conditions are texts, so this
begins with the text of both: in parentheses, each is read as it is alone, since
no token goes on with a closing parenthesis.

The second query evaluates its condition on the rows that the first one kept. On
some rows the condition says what it says of them on all, and on none it is empty
and still one of truth values. The converse does not hold: the text of both fails
where the second condition fails on a row that the first one drops.
-/

namespace TableVerbs

/-! ## The text of both -/

/-- The text that asks for two conditions at once. -/
def bothText (e₁ e₂ : String) : String := "(" ++ e₁ ++ ") & (" ++ e₂ ++ ")"

theorem toList_bothText (e₁ e₂ : String) :
    (bothText e₁ e₂).toList =
      '(' :: (e₁.toList ++ ')' :: ' ' :: '&' :: ' ' :: '(' :: (e₂.toList ++ [')'])) := by
  simp [bothText, String.toList_append]

theorem tokenize_bothText {e₁ e₂ : String} {ts us : List Token} (h₁ : tokenize e₁ = .ok ts)
    (h₂ : tokenize e₂ = .ok us) :
    tokenize (bothText e₁ e₂) =
      .ok ((.leftParen :: (ts ++ [.rightParen])) ++
        .and :: .leftParen :: (us ++ [.rightParen])) := by
  have hclose : ∀ rest, Lexer.Apart (')' :: rest) := fun _ => Lexer.apart_cons (by decide)
  have hlast : Lexer.tokens [')'] = .ok [.rightParen] :=
    Lexer.tokens_cons (by decide) rfl Lexer.tokens_nil
  have hsecond : Lexer.tokens (e₂.toList ++ [')']) = .ok (us ++ [.rightParen]) := by
    rw [Lexer.tokens_append (hclose []) h₂, hlast]
    rfl
  have hmiddle : Lexer.tokens (')' :: ' ' :: '&' :: ' ' :: '(' :: (e₂.toList ++ [')'])) =
      .ok (.rightParen :: .and :: .leftParen :: (us ++ [.rightParen])) := by
    refine Lexer.tokens_cons (by decide) rfl ?_
    rw [Lexer.tokens_blank (by decide)]
    refine Lexer.tokens_cons (by decide) rfl ?_
    rw [Lexer.tokens_blank (by decide)]
    exact Lexer.tokens_cons (by decide) rfl hsecond
  rw [tokenize, toList_bothText]
  refine Lexer.tokens_cons (by decide) rfl ?_
  rw [Lexer.tokens_append (hclose _) h₁, hmiddle]
  exact congrArg Except.ok (List.append_assoc ts [.rightParen] _).symm

theorem parse_eq_ok {text : String} {x : Expr} :
    Expr.parse text = .ok x ↔ ∃ ts, tokenize text = .ok ts ∧ x.Rendering ts := by
  rw [Expr.parse]
  cases tokenize text with
  | error e => simp
  | ok ts => simp [Parser.expression_iff_rendering]

/-- In parentheses, each condition is read as it is alone. -/
theorem parse_bothText {e₁ e₂ : String} {x y : Expr} (h₁ : Expr.parse e₁ = .ok x)
    (h₂ : Expr.parse e₂ = .ok y) :
    Expr.parse (bothText e₁ e₂) = .ok (.binary (.connective .and) x y) := by
  obtain ⟨ts, hts, hx⟩ := parse_eq_ok.mp h₁
  obtain ⟨us, hus, hy⟩ := parse_eq_ok.mp h₂
  refine parse_eq_ok.mpr ⟨_, tokenize_bothText hts hus, ?_⟩
  have hloose : Level.and.rank ≤ Level.or.rank := by decide
  exact .bare hloose (.binary (.connective .and) (.parens _ hx) (.parens _ hy))

/-- A place-holder does not reach over a character that is none of its own. -/
theorem fillRowCount_append {c : Char} (hn : c ≠ 'n') (hclose : c ≠ '\x7d')
    (cs rest : List Char) :
    fillRowCount (cs ++ c :: rest) = fillRowCount cs ++ fillRowCount (c :: rest) := by
  fun_induction fillRowCount cs with
  | case1 cs ih => simp [fillRowCount, ih]
  | case2 d cs hother ih =>
      rw [List.cons_append, fillRowCount, ih]
      · rfl
      · intro more hd hmore
        cases cs with
        | nil => exact hn (List.cons.inj hmore).1
        | cons e cs =>
            obtain ⟨he, hmore⟩ := List.cons.inj hmore
            cases cs with
            | nil => exact hclose (List.cons.inj hmore).1
            | cons e' cs =>
                obtain ⟨he', _⟩ := List.cons.inj hmore
                exact hother cs hd (by rw [he, he'])
  | case3 => rfl

/-- The place-holder of the number of rows is nowhere in a text. -/
def NoPlaceholder (e : String) : Prop := ¬ ['\x7b', 'n', '\x7d'] <:+: e.toList

theorem eval_of_noPlaceholder {scope : Scope} {e : String} {x : Expr} (h : NoPlaceholder e)
    (hx : Expr.parse e = .ok x) (t : Table) : scope.eval e t = x.eval t scope := by
  rw [Scope.eval, fillRowCount_eq_self.mpr h, String.ofList_toList, hx]

theorem noPlaceholder_bothText {e₁ e₂ : String} (h₁ : NoPlaceholder e₁) (h₂ : NoPlaceholder e₂) :
    NoPlaceholder (bothText e₁ e₂) := by
  rw [NoPlaceholder, ← fillRowCount_eq_self] at h₁ h₂ ⊢
  rw [toList_bothText, fillRowCount_cons (by decide), fillRowCount_append (by decide) (by decide),
    h₁]
  iterate 5 rw [fillRowCount_cons (by decide)]
  rw [fillRowCount_append (by decide) (by decide), h₂]
  rfl

/-! ## Where both hold -/

namespace Datum

/-- The cells of a value, one for each of `rows` rows. -/
def cellsOn (rows : Nat) : Datum → List Cell
  | .cell v => List.replicate rows v
  | .column c => c.cells

end Datum

theorem Connective.apply_and {a b : Cell} {w : Bool} (h : Connective.and.apply a b = .ok w) :
    ∃ p q, a = .bool p ∧ b = .bool q ∧ w = (p && q) := by
  cases a with
  | bool p =>
      cases b with
      | bool q =>
          cases h
          exact ⟨p, q, rfl, rfl, rfl⟩
      | int y | float y | str y => cases h
  | int x | float x | str x => cases h

/-- Cells that can be joined, pair by pair, are truth values. -/
theorem mapM_and {pairs : List (Cell × Cell)} {ws : List Cell}
    (h : (pairs.mapM fun p => (BinaryOp.connective .and).apply p.1 p.2) = .ok ws) :
    ∃ bs : List (Bool × Bool), pairs = bs.map (fun b => (.bool b.1, .bool b.2)) ∧
      ws = bs.map fun b => .bool (b.1 && b.2) := by
  have hall := mapM_eq_ok.mp h
  clear h
  induction hall with
  | nil => exact ⟨[], rfl, rfl⟩
  | @cons pair w pairs ws hw _ ih =>
      obtain ⟨x, y⟩ := pair
      obtain ⟨bs, rfl, rfl⟩ := ih
      obtain ⟨r, hr, rfl⟩ := map_eq_ok.mp hw
      obtain ⟨p, q, rfl, rfl, rfl⟩ := Connective.apply_and hr
      exact ⟨(p, q) :: bs, rfl, rfl⟩

theorem Column.collect_bools {α : Type} (f : α → Bool) (bs : List α) :
    collect .bool (bs.map fun b => .bool (f b)) = .ok (.bools (bs.map f)) := by
  cases bs with
  | nil => rfl
  | cons b bs =>
      have htype : ((b :: bs).map fun b => Cell.bool (f b)).all (·.type == .bool) = true := by
        rw [List.all_map]
        exact List.all_eq_true.mpr fun _ _ => rfl
      have hvalues : ((b :: bs).map fun b => Cell.bool (f b)).filterMap Cell.bool? =
          (b :: bs).map f := by
        rw [List.filterMap_map]
        exact congrFun List.filterMap_eq_map _
      simp only [collect, ofCells]
      rw [htype, hvalues]
      rfl

section

variable {n : Nat} {v : Datum}

/-- A column made by joining pairs of cells. -/
theorem cellsOn_joined {pairs : List (Cell × Cell)}
    (h : ((pairs.mapM fun p => (BinaryOp.connective .and).apply p.1 p.2).bind
      (Column.collect .bool)).map .column = .ok v) (hv : v.Fits n) :
    ∃ bs : List (Bool × Bool), pairs.map Prod.fst = bs.map (fun p => .bool p.1) ∧
      pairs.map Prod.snd = bs.map (fun p => .bool p.2) ∧ pairs.length = n ∧
      v.cellsOn n = bs.map fun p => .bool (p.1 && p.2) := by
  cases hws : pairs.mapM fun p => (BinaryOp.connective .and).apply p.1 p.2 with
  | error e =>
      rw [hws] at h
      cases h
  | ok ws =>
      obtain ⟨bs, rfl, rfl⟩ := mapM_and hws
      rw [hws, Except.bind, Column.collect_bools] at h
      cases h
      refine ⟨bs, ?_, ?_, ?_, List.map_map⟩
      · rw [List.map_map]
        rfl
      · rw [List.map_map]
        rfl
      · rw [List.length_map, ← hv]
        exact (List.length_map _).symm

/-- A conjunction that has a value has truth values for operands, row by row. -/
theorem BinaryOp.cellsOn_and {a b : Datum}
    (h : (BinaryOp.connective .and).onDatum a b = .ok v) (hv : v.Fits n) :
    ∃ bs : List (Bool × Bool), a.cellsOn n = bs.map (fun p => .bool p.1) ∧
      b.cellsOn n = bs.map (fun p => .bool p.2) ∧
      v.cellsOn n = bs.map fun p => .bool (p.1 && p.2) := by
  cases a with
  | cell x =>
      cases b with
      | cell y =>
          obtain ⟨w, hw, rfl⟩ := map_eq_ok.mp h
          obtain ⟨r, hr, rfl⟩ := map_eq_ok.mp hw
          obtain ⟨p, q, rfl, rfl, rfl⟩ := Connective.apply_and hr
          refine ⟨List.replicate n (p, q), ?_, ?_, ?_⟩ <;> rw [List.map_replicate] <;> rfl
      | column d =>
          have hpairs : (((d.cells.map fun y => (x, y)).mapM fun p =>
              (BinaryOp.connective .and).apply p.1 p.2).bind (Column.collect .bool)).map .column =
                .ok v := by
            rw [List.mapM_map]
            rwa [onDatum, Column.mapCells_eq] at h
          obtain ⟨bs, hx, hy, hlen, hcells⟩ := cellsOn_joined hpairs hv
          refine ⟨bs, ?_, ?_, hcells⟩
          · rw [← hx, List.map_map, ← hlen, List.length_map]
            exact List.map_const'.symm
          · rw [← hy, List.map_map]
            exact (List.map_id _).symm
  | column c =>
      cases b with
      | cell y =>
          have hpairs : (((c.cells.map fun x => (x, y)).mapM fun p =>
              (BinaryOp.connective .and).apply p.1 p.2).bind (Column.collect .bool)).map .column =
                .ok v := by
            rw [List.mapM_map]
            rwa [onDatum, Column.mapCells_eq] at h
          obtain ⟨bs, hx, hy, hlen, hcells⟩ := cellsOn_joined hpairs hv
          refine ⟨bs, ?_, ?_, hcells⟩
          · rw [← hx, List.map_map]
            exact (List.map_id _).symm
          · rw [← hy, List.map_map, ← hlen, List.length_map]
            exact List.map_const'.symm
      | column d =>
          have hlength : c.length = d.length := by
            by_contra hne
            rw [onDatum, if_pos hne] at h
            cases h
          rw [onColumns_eq _ hlength] at h
          obtain ⟨bs, hx, hy, _, hcells⟩ := cellsOn_joined h hv
          have hcount : c.cells.length = d.cells.length := by
            rw [Column.length_cells, Column.length_cells, hlength]
          refine ⟨bs, ?_, ?_, hcells⟩
          · rw [← hx, List.map_fst_zip (Nat.le_of_eq hcount)]
            rfl
          · rw [← hy, List.map_snd_zip (Nat.le_of_eq hcount.symm)]
            rfl

namespace Dataset

theorem cellsOn_of_conditionMask {mask : List Bool} (h : conditionMask n v = .ok mask)
    (hmask : mask.length = n) : v.Fits n ∧ v.cellsOn n = mask.map .bool := by
  cases v with
  | column c =>
      cases c with
      | bools xs =>
          cases h
          exact ⟨hmask, rfl⟩
      | ints xs | floats xs | strs xs => cases h
  | cell v =>
      cases v with
      | bool keep =>
          cases h
          exact ⟨trivial, List.map_replicate.symm⟩
      | int x | float x | str x => cases h

/-- On rows that are there, truth values say which to keep. -/
theorem conditionMask_of_cellsOn (hn : 0 < n) {mask : List Bool}
    (h : v.cellsOn n = mask.map .bool) (hmask : mask.length = n) :
    conditionMask n v = .ok mask := by
  have hinj : Function.Injective (List.map Cell.bool) :=
    List.map_injective_iff.mpr fun _ _ h => Cell.bool.inj h
  obtain ⟨keep, rest, rfl⟩ := List.exists_cons_of_length_pos (hmask ▸ hn)
  cases v with
  | column c =>
      have hfirst : Cell.bool keep ∈ c.cells := by
        rw [show c.cells = _ from h]
        exact List.mem_cons_self
      have hc : c = .bools (keep :: rest) :=
        Column.ext_cells (Column.type_of_mem_cells hfirst).symm h
      rw [hc]
      rfl
  | cell v =>
      have hfirst : Cell.bool keep ∈ List.replicate n v := by
        rw [show List.replicate n v = _ from h]
        exact List.mem_cons_self
      obtain rfl := List.eq_of_mem_replicate hfirst
      have hall : List.replicate n keep = keep :: rest := hinj (List.map_replicate.trans h)
      exact congrArg Except.ok hall

end Dataset

/-- A conjunction keeps what both of its operands keep. -/
theorem conditionMask_and (hn : 0 < n) {a b : Datum} {mask : List Bool}
    (h : (BinaryOp.connective .and).onDatum a b = .ok v)
    (hv : Dataset.conditionMask n v = .ok mask) (hmask : mask.length = n) :
    ∃ m₁ m₂, Dataset.conditionMask n a = .ok m₁ ∧ m₁.length = n ∧
      Dataset.conditionMask n b = .ok m₂ ∧ m₂.length = n ∧
      mask = List.zipWith (· && ·) m₁ m₂ := by
  obtain ⟨hfits, hcells⟩ := Dataset.cellsOn_of_conditionMask hv hmask
  obtain ⟨bs, ha, hb, hand⟩ := BinaryOp.cellsOn_and h hfits
  have hmasks : mask = bs.map fun p => p.1 && p.2 := by
    refine List.map_injective_iff.mpr (fun _ _ h => Cell.bool.inj h) ?_
    rw [← hcells, hand, List.map_map]
    rfl
  have hlen : bs.length = n := by rw [← hmask, hmasks, List.length_map]
  refine ⟨bs.map Prod.fst, bs.map Prod.snd, ?_, ?_, ?_, ?_, ?_⟩
  · refine Dataset.conditionMask_of_cellsOn hn ?_ ((List.length_map _).trans hlen)
    rw [ha, List.map_map]
    rfl
  · exact (List.length_map _).trans hlen
  · refine Dataset.conditionMask_of_cellsOn hn ?_ ((List.length_map _).trans hlen)
    rw [hb, List.map_map]
    rfl
  · exact (List.length_map _).trans hlen
  · rw [hmasks, List.zipWith_map, List.zipWith_self]

end

/-! ## Rows kept twice -/

/-- Of what one mask marks, the second marks what both do. -/
theorem marked_marked {α : Type} (m₁ m₂ : List Bool) (xs : List α) :
    marked (marked m₁ m₂) (marked m₁ xs) = marked (List.zipWith (· && ·) m₁ m₂) xs := by
  induction m₁ generalizing m₂ xs with
  | nil => simp [marked]
  | cons keep m₁ ih =>
      cases m₂ with
      | nil => simp [marked]
      | cons keep' m₂ =>
          cases xs with
          | nil => simp [marked]
          | cons x xs =>
              have hrest := ih m₂ xs
              cases keep with
              | false => exact hrest
              | true =>
                  cases keep' with
                  | false => exact hrest
                  | true => exact congrArg (x :: ·) hrest

namespace Table

variable {t : Table}

/-- Filtering by two masks, one after the other, is filtering by both. -/
theorem reshape_reshape_marked (m₁ m₂ : List Bool) :
    (t.reshape (marked m₁)).reshape (marked (marked m₁ m₂)) =
      t.reshape (marked (List.zipWith (· && ·) m₁ m₂)) := by
  refine eq_of_parts ?_ (marked_marked m₁ m₂ t.labels)
  show (t.columns.map _).map _ = t.columns.map _
  rw [List.map_map]
  refine List.map_congr_left fun c _ => Prod.ext rfl ?_
  show (c.2.filter m₁).filter (marked m₁ m₂) = c.2.filter (List.zipWith (· && ·) m₁ m₂)
  cases c.2 with
  | ints xs => exact congrArg Column.ints (marked_marked m₁ m₂ xs)
  | floats xs => exact congrArg Column.floats (marked_marked m₁ m₂ xs)
  | bools xs => exact congrArg Column.bools (marked_marked m₁ m₂ xs)
  | strs xs => exact congrArg Column.strs (marked_marked m₁ m₂ xs)

end Table

namespace Dataset

variable {d : Dataset}

theorem query_eq_ok {scope : Scope} {condition : String} {d' : Dataset} :
    d.query scope condition = .ok d' ↔ ∃ v mask, scope.eval condition d.table = .ok v ∧
      conditionMask d.table.rows v = .ok mask ∧ mask.length = d.table.rows ∧
      d.retag (d.table.reshape (marked mask)) = d' := by
  rw [query]
  cases hv : scope.eval condition d.table with
  | error e => simp
  | ok v =>
      cases hmask : conditionMask d.table.rows v with
      | error e => simp [hmask]
      | ok mask =>
          by_cases hlen : mask.length = d.table.rows
          · simp [hmask, hlen, Table.filter_eq hlen, Except.map]
          · simp [hmask, hlen, Table.filter, Except.map]

end Dataset

/-! ## The second query -/

section

open Dataset (conditionMask)

theorem conditionMask_take {n : Nat} {v : Datum} {mask : List Bool}
    (h : conditionMask n v = .ok mask) {positions : List Nat} (hp : ∀ i ∈ positions, i < n) :
    conditionMask positions.length (v.take positions) = .ok (pick positions mask) := by
  cases v with
  | column c =>
      cases c with
      | bools xs =>
          cases h
          rfl
      | ints xs | floats xs | strs xs => cases h
  | cell v =>
      cases v with
      | bool keep =>
          cases h
          exact congrArg Except.ok (pick_replicate hp keep).symm
      | int x | float x | str x => cases h

theorem conditionMask_emptied {n : Nat} {v w : Datum} {mask : List Bool}
    (h : conditionMask n v = .ok mask) (hw : v.Emptied w) : conditionMask 0 w = .ok [] := by
  cases hw with
  | cell v =>
      cases v with
      | bool keep => rfl
      | int x | float x | str x => cases h
  | @column c type htype =>
      cases c with
      | bools xs =>
          rw [htype rfl]
          rfl
      | ints xs | floats xs | strs xs => cases h

variable {t : Table} {scope : Scope}

/-- Of the rows that are kept, a condition marks the ones that it marks among all. -/
theorem Expr.conditionMask_kept (hlen : t.Rectangular) (hn : 0 < t.rows) {y : Expr}
    (hcalls : scope.Untouched y.calls) (hpow : .arithmetic .pow ∉ y.operators) {b : Datum}
    {mask : List Bool} (hb : y.eval t scope = .ok b)
    (hmask : conditionMask t.rows b = .ok mask) (hlength : mask.length = t.rows)
    (kept : List Bool) :
    ∃ w, y.eval (t.reshape (marked kept)) scope = .ok w ∧
      conditionMask (t.reshape (marked kept)).rows w = .ok (marked kept mask) := by
  rw [Table.reshape_marked hlen, marked_eq_pick hlength]
  have hbounds : ∀ i ∈ marked kept (List.range t.rows), i < t.rows :=
    fun i hi => List.mem_range.mp ((marked_sublist kept _).mem hi)
  rw [Table.rows_gather hbounds]
  by_cases hnone : marked kept (List.range t.rows) = []
  · obtain ⟨w, hw, hemptied⟩ := Expr.hasEmptied_eval hlen hn y hcalls b hb
    rw [hnone]
    exact ⟨w, hw, conditionMask_emptied hmask hemptied⟩
  · have hlocal := Expr.rowLocal_rectangular hlen (covers_nonempty t.rows) hn y
      ⟨hcalls.unknown, .inl ⟨hpow, fun hcount => (hcalls _ hcount).1 rfl⟩⟩
    exact ⟨b.take _, (hlocal.picked b hb).2 _ ⟨hnone, hbounds⟩, conditionMask_take hmask hbounds⟩

end

/-- The operands of an expression that has a value have values. -/
theorem Expr.eval_binary_eq_ok {t : Table} {scope : Scope} {op : BinaryOp} {x y : Expr}
    {v : Datum} : (Expr.binary op x y).eval t scope = .ok v ↔
      ∃ a b, x.eval t scope = .ok a ∧ y.eval t scope = .ok b ∧ op.onDatum a b = .ok v := by
  rw [Expr.eval_binary]
  cases x.eval t scope with
  | error e => simp [Except.bind]
  | ok a =>
      cases y.eval t scope with
      | error e => simp [Except.bind]
      | ok b => simp [Except.bind]

theorem Dataset.query_both {scope : Scope} {d d' : Dataset} {e₁ e₂ : String} {x y : Expr}
    (hlen : d.table.Rectangular) (hrows : 0 < d.table.rows) (h₁ : Expr.parse e₁ = .ok x)
    (h₂ : Expr.parse e₂ = .ok y) (hfree₁ : NoPlaceholder e₁) (hfree₂ : NoPlaceholder e₂)
    (hcalls : scope.Untouched y.calls) (hpow : .arithmetic .pow ∉ y.operators)
    (h : d.query scope (bothText e₁ e₂) = .ok d') :
    ∃ d₁, d.query scope e₁ = .ok d₁ ∧ d₁.query scope e₂ = .ok d' := by
  obtain ⟨v, mask, hv, hmask, hlength, rfl⟩ := query_eq_ok.mp h
  rw [eval_of_noPlaceholder (noPlaceholder_bothText hfree₁ hfree₂) (parse_bothText h₁ h₂)] at hv
  obtain ⟨a, b, ha, hb, hab⟩ := Expr.eval_binary_eq_ok.mp hv
  obtain ⟨m₁, m₂, ha', hm₁, hb', hm₂, rfl⟩ := conditionMask_and hrows hab hmask hlength
  refine ⟨_, query_eq_ok.mpr ⟨a, m₁, ?_, ha', hm₁, rfl⟩, ?_⟩
  · rw [eval_of_noPlaceholder hfree₁ h₁, ha]
  · obtain ⟨w, hw, hw'⟩ := Expr.conditionMask_kept hlen hrows hcalls hpow hb hb' hm₂ m₁
    refine query_eq_ok.mpr ⟨w, marked m₁ m₂, ?_, ?_, ?_, ?_⟩
    · rw [table_retag, eval_of_noPlaceholder hfree₂ h₂, hw]
    · rwa [table_retag]
    · rw [table_retag]
      exact length_marked_congr hm₂
    · rw [table_retag, Table.reshape_reshape_marked]
      refine retag_retag ?_
      rw [Table.names_reshape, Table.names_reshape]

/-- A query for two conditions at once is a query for the first and then one for the
second. The second has to mean the same on fewer rows, so it calls no function of the
scope, raises nothing to a power and does not ask for the number of rows; of the first
nothing is asked. -/
theorem Session.query_query (s : Session) (defaults : Options) {d d' : Dataset}
    {e₁ e₂ : String} {x y : Expr} (hlen : d.table.Rectangular) (hrows : 0 < d.table.rows)
    (h₁ : Expr.parse e₁ = .ok x) (h₂ : Expr.parse e₂ = .ok y) (hfree₁ : NoPlaceholder e₁)
    (hfree₂ : NoPlaceholder e₂) (hcalls : s.scope.Untouched y.calls)
    (hpow : .arithmetic .pow ∉ y.operators)
    (h : (s.apply defaults d (.query (bothText e₁ e₂))).outcome = .ok (.data d')) :
    ∃ d₁, (s.apply defaults d (.query e₁)).outcome = .ok (.data d₁) ∧
      (s.apply defaults d₁ (.query e₂)).outcome = .ok (.data d') := by
  have hquery : ∀ (d : Dataset) (e : String),
      (s.apply defaults d (.query e)).outcome = (d.query s.scope e).map .data := fun _ _ => rfl
  simp only [hquery] at h ⊢
  obtain ⟨kept, hkept, hdata⟩ := map_eq_ok.mp h
  cases hdata
  obtain ⟨d₁, hfirst, hsecond⟩ :=
    Dataset.query_both hlen hrows h₁ h₂ hfree₁ hfree₂ hcalls hpow hkept
  refine ⟨d₁, ?_, ?_⟩
  · rw [hfirst]
    rfl
  · rw [hsecond]
    rfl

/-- Of three grouped rows, the one between two bounds. -/
theorem Session.query_query_between :
    ∃ d₁, (Session.apply ⟨none, Scope.empty, Draws.first⟩ Options.standard
        (.grouped ⟨⟨[("g", .strs ["a", "a", "b"]), ("v", .ints [1, 2, 3])], [5, 6, 7]⟩, ["g"]⟩)
        (.query "v > 1")).outcome = .ok (.data d₁) ∧
      (Session.apply ⟨none, Scope.empty, Draws.first⟩ Options.standard d₁
        (.query "v < 3")).outcome =
        .ok (.data (.grouped ⟨⟨[("g", .strs ["a"]), ("v", .ints [2])], [6]⟩, ["g"]⟩)) := by
  have hlow : Expr.parse "v > 1" =
      .ok (.binary (.comparison .gt) (.column "v") (.lit (.int 1))) := by cbv
  have hhigh : Expr.parse "v < 3" =
      .ok (.binary (.comparison .lt) (.column "v") (.lit (.int 3))) := by cbv
  have hfree₁ : NoPlaceholder "v > 1" := by
    rw [NoPlaceholder]
    decide
  have hfree₂ : NoPlaceholder "v < 3" := by
    rw [NoPlaceholder]
    decide
  have hlen : Table.Rectangular
      ⟨[("g", .strs ["a", "a", "b"]), ("v", .ints [1, 2, 3])], [5, 6, 7]⟩ := by
    rw [Table.Rectangular]
    decide
  refine Session.query_query _ _ hlen (by decide) hlow hhigh hfree₁ hfree₂
    (fun _ hname => by cases hname) (by decide) ?_
  rw [apply, Applied.untouched, Dataset.query,
    eval_of_noPlaceholder (noPlaceholder_bothText hfree₁ hfree₂) (parse_bothText hlow hhigh)]
  rfl

end TableVerbs
