import TableVerbs.Proofs.FusedQueries

/-!
# The rows that a query leaves out

A query for `not (e)` keeps exactly the rows that a query for `e` drops. It is
not a matter of the condition alone, since conditions are texts: what stands in
the parentheses has to be read as it is without them, place-holders included.
After that it is short. Whatever lets a query succeed is a column of truth
values or a single one, its negation is such a thing again, also where it is
empty, and the two masks share out the rows between them.

Nothing is asked of the condition. It may call any function of the scope, since
both queries evaluate it on the same rows.
-/

namespace TableVerbs

/-! ## The text of the negation -/

/-- The text that asks for the opposite of a condition. -/
def notText (e : String) : String := "not (" ++ e ++ ")"

theorem toList_notText (e : String) :
    (notText e).toList = 'n' :: 'o' :: 't' :: ' ' :: '(' :: (e.toList ++ [')']) := by
  simp [notText, String.toList_append]

theorem tokenize_notText {e : String} {ts : List Token} (h : tokenize e = .ok ts) :
    tokenize (notText e) = .ok (.not :: .leftParen :: (ts ++ [.rightParen])) := by
  have hlast : Lexer.tokens [')'] = .ok [.rightParen] :=
    Lexer.tokens_cons (by decide) rfl Lexer.tokens_nil
  have hinside : Lexer.tokens (e.toList ++ [')']) = .ok (ts ++ [.rightParen]) := by
    rw [Lexer.tokens_append (Lexer.apart_cons (by decide)) h, hlast]
    rfl
  have hword : ∀ rest, Lexer.next 'n' ('o' :: 't' :: ' ' :: rest) = .ok (.not, ' ' :: rest) :=
    fun _ => rfl
  rw [tokenize, toList_notText]
  refine Lexer.tokens_cons (by decide) (hword _) ?_
  rw [Lexer.tokens_blank (by decide)]
  exact Lexer.tokens_cons (by decide) rfl hinside

theorem parse_notText {e : String} {x : Expr} (h : Expr.parse e = .ok x) :
    Expr.parse (notText e) = .ok (.unary .not x) := by
  obtain ⟨ts, hts, hx⟩ := parse_eq_ok.mp h
  have hloose : Level.not.rank ≤ Level.or.rank := by decide
  exact parse_eq_ok.mpr ⟨_, tokenize_notText hts, .bare hloose (.unary .not (.parens _ hx))⟩

/-- The parentheses are no part of a place-holder, so these are filled in inside as they
are outside. -/
theorem filled_notText (e : String) : filled (notText e) = notText (filled e) := by
  rw [← String.toList_inj, filled, String.toList_ofList, toList_notText, toList_notText, filled,
    String.toList_ofList]
  iterate 5 rw [fillRowCount_cons (by decide)]
  rw [fillRowCount_append (by decide) (by decide)]
  rfl

/-- The negation of a condition is evaluated to the negation of its value. -/
theorem Scope.eval_notText {scope : Scope} {e : String} {t : Table} {v : Datum}
    (h : scope.eval e t = .ok v) : scope.eval (notText e) t = UnaryOp.not.onDatum v := by
  rw [Scope.eval] at h
  split at h
  · cases h
  · next x hx =>
      have hnot := parse_notText hx
      rw [← filled, ← filled_notText] at hnot
      rw [Scope.eval, ← filled, hnot]
      show (Expr.unary .not x).eval t scope = _
      rw [Expr.eval_unary, h]
      rfl

/-! ## The opposite mask -/

theorem Column.mapCells_complement (mask : List Bool) :
    (bools mask).mapCells .bool UnaryOp.not.apply = .ok (.bools (mask.map not)) := by
  have hcells : (bools mask).cells.mapM UnaryOp.not.apply =
      .ok (mask.map fun keep => Cell.bool (!keep)) := by
    show (mask.map Cell.bool).mapM UnaryOp.not.apply = _
    rw [List.mapM_map]
    exact mapM_eq_map fun keep _ => rfl
  rw [mapCells_eq, hcells]
  exact collect_bools not mask

theorem Dataset.conditionMask_not {n : Nat} {v : Datum} {mask : List Bool}
    (h : conditionMask n v = .ok mask) :
    ∃ w, UnaryOp.not.onDatum v = .ok w ∧ conditionMask n w = .ok (mask.map not) := by
  cases v with
  | cell v =>
      cases v with
      | bool keep =>
          cases h
          refine ⟨.cell (.bool (!keep)), rfl, ?_⟩
          simp [conditionMask]
      | int x | float x | str x => cases h
  | column c =>
      cases c with
      | bools xs =>
          cases h
          refine ⟨.column (.bools (mask.map not)), ?_, rfl⟩
          show ((Column.bools mask).mapCells .bool UnaryOp.not.apply).map Datum.column = _
          rw [Column.mapCells_complement]
          rfl
      | ints xs | floats xs | strs xs => cases h

/-- A mask and its opposite share out a list. -/
theorem marked_not_perm {α : Type} {mask : List Bool} {xs : List α}
    (h : mask.length = xs.length) : (marked mask xs ++ marked (mask.map not) xs).Perm xs := by
  induction mask generalizing xs with
  | nil =>
      rw [List.length_eq_zero_iff.mp h.symm]
      exact List.Perm.refl _
  | cons keep mask ih =>
      cases xs with
      | nil => simp at h
      | cons x xs =>
          have hrest := ih (Nat.succ.inj h)
          rw [List.map_cons, marked_cons, marked_cons]
          cases keep with
          | true =>
              show (x :: (marked mask xs ++ marked (mask.map not) xs)).Perm (x :: xs)
              exact hrest.cons x
          | false =>
              show (marked mask xs ++ x :: marked (mask.map not) xs).Perm (x :: xs)
              exact List.perm_middle.trans (hrest.cons x)

theorem marked_range_ascending (mask : List Bool) (n : Nat) :
    (marked mask (List.range n)).Pairwise (· < ·) :=
  List.pairwise_lt_range.sublist (marked_sublist mask _)

/-! ## The two queries -/

/-- Where a query keeps some rows, the query for the opposite keeps the others. -/
theorem Dataset.query_notText {d d' : Dataset} {scope : Scope} {e : String}
    (h : d.query scope e = .ok d') :
    ∃ mask, mask.length = d.table.rows ∧ d' = d.retag (d.table.reshape (marked mask)) ∧
      d.query scope (notText e) = .ok (d.retag (d.table.reshape (marked (mask.map not)))) := by
  obtain ⟨v, mask, hv, hmask, hlength, hd'⟩ := query_eq_ok.mp h
  obtain ⟨w, hw, hopposite⟩ := conditionMask_not hmask
  refine ⟨mask, hlength, hd'.symm, query_eq_ok.mpr ⟨w, mask.map not, ?_, hopposite, ?_, rfl⟩⟩
  · rw [Scope.eval_notText hv, hw]
  · simp [hlength]

/-- Whenever a query succeeds, so does the query for the opposite of its condition, and
every row of the input is in exactly one of the two results. Both have their rows in the
order of the input, with the values and the labels they had and under the same keys. -/
theorem Session.query_splits (s : Session) (defaults : Options) {d d' : Dataset}
    (hd : d.Regular) {e : String}
    (h : (s.apply defaults d (.query e)).outcome = .ok (.data d')) :
    ∃ kept dropped : List Nat, kept.Pairwise (· < ·) ∧ dropped.Pairwise (· < ·) ∧
      (kept ++ dropped).Perm (List.range d.table.rows) ∧
      d' = d.withTable (d.table.gather kept) ∧
      (s.apply defaults d (.query (notText e))).outcome =
        .ok (.data (d.withTable (d.table.gather dropped))) := by
  obtain ⟨result, hquery, hresult⟩ := map_eq_ok.mp h
  cases hresult
  obtain ⟨mask, hlength, hkept, hdropped⟩ := Dataset.query_notText hquery
  have hrows : ∀ m : List Bool, d.retag (d.table.reshape (marked m)) =
      d.withTable (d.table.gather (marked m (List.range d.table.rows))) := by
    intro m
    rw [Table.reshape_marked hd.rectangular, hd.retag_eq Table.names_gather]
  refine ⟨marked mask (List.range d.table.rows), marked (mask.map not) (List.range d.table.rows),
    marked_range_ascending _ _, marked_range_ascending _ _, ?_, ?_, ?_⟩
  · exact marked_not_perm (by rw [hlength, List.length_range])
  · rw [hkept, hrows]
  · show (d.query s.scope (notText e)).map Output.data = _
    rw [hdropped, hrows]
    rfl

/-- A row without a number is not among the numbers below the number of rows, so it is
among the others. -/
theorem Session.query_splits_missing :
    ∃ kept dropped : List Nat, kept.Pairwise (· < ·) ∧ dropped.Pairwise (· < ·) ∧
      (kept ++ dropped).Perm (List.range 3) ∧
      Dataset.grouped ⟨⟨[("v", .floats [2.5])], [7]⟩, ["v"]⟩ =
        .grouped ⟨Table.gather kept ⟨[("v", .floats [0.0 / 0.0, 3.5, 2.5])], [5, 6, 7]⟩, ["v"]⟩ ∧
      (Session.apply ⟨none, Scope.empty, Draws.first⟩ Options.standard
        (.grouped ⟨⟨[("v", .floats [0.0 / 0.0, 3.5, 2.5])], [5, 6, 7]⟩, ["v"]⟩)
        (.query "not (v < \x7bn\x7d)")).outcome =
        .ok (.data (.grouped ⟨Table.gather dropped
          ⟨[("v", .floats [0.0 / 0.0, 3.5, 2.5])], [5, 6, 7]⟩, ["v"]⟩)) := by
  have hregular : Dataset.Regular
      (.grouped ⟨⟨[("v", .floats [0.0 / 0.0, 3.5, 2.5])], [5, 6, 7]⟩, ["v"]⟩) :=
    Dataset.WellFormed.regular ⟨⟨by decide, by decide⟩, by decide, by decide, by decide⟩
  have hkept : (Session.apply ⟨none, Scope.empty, Draws.first⟩ Options.standard
      (.grouped ⟨⟨[("v", .floats [0.0 / 0.0, 3.5, 2.5])], [5, 6, 7]⟩, ["v"]⟩)
      (.query "v < \x7bn\x7d")).outcome =
        .ok (.data (.grouped ⟨⟨[("v", .floats [2.5])], [7]⟩, ["v"]⟩)) := by
    have hparse : Expr.parse (String.ofList (fillRowCount "v < \x7bn\x7d".toList)) =
        .ok (.binary (.comparison .lt) (.column "v") (.call "__n__" [])) := by cbv
    rw [apply, Applied.untouched, Dataset.query, Scope.eval, hparse]
    decide +kernel
  have hnot : "not (v < \x7bn\x7d)" = notText "v < \x7bn\x7d" := by decide
  rw [hnot]
  exact Session.query_splits _ _ hregular hkept

end TableVerbs
