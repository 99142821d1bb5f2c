import Mathlib
import TableVerbs.Proofs.GroupedRows
import TableVerbs.Proofs.NewColumns
import TableVerbs.Proofs.RowLocalExpr

/-!
# Arranging is a stable sort

Rows are arranged by keys that are computed first, and from then on only the keys
and the positions matter. `Sorts` says of a list of positions that it has every row
once, in the order of the keys, and rows of one key as they came. One list does, so
nothing has to be known of how it was found: rows that are in order already are left
where they are, and sorting by the later keys first and then by the earlier ones
comes to the list that sorting by all of them finds.

Both of these arrange rows that have been arranged before, and compute their keys
anew. A text that calls no function of the scope is evaluated row by row, so its
values move with the rows. A column given by value would stay as it is, and nothing
is said of it.
-/

namespace TableVerbs

/-! ## Sorted positions -/

namespace Sorts

variable {keyOf keyOf' : Nat → List Cell} {n : Nat} {positions : List Nat}

/-- Rows that have been put in order are in order. -/
theorem range (h : Sorts keyOf n positions)
    (hkeys : ∀ i (hi : i < positions.length), keyOf' i = keyOf positions[i]) :
    Sorts keyOf' n (List.range n) := by
  rw [← h.length]
  exact of_pairwise h.ordered hkeys

end Sorts

theorem Cell.orderKeys_append {as as' : List Cell} (h : as.length = as'.length)
    (bs bs' : List Cell) :
    orderKeys (as ++ bs) (as' ++ bs') = (orderKeys as as').then (orderKeys bs bs') := by
  induction as generalizing as' with
  | nil =>
      rw [List.eq_nil_of_length_eq_zero h.symm]
      rfl
  | cons a as ih =>
      obtain ⟨a', as', rfl⟩ := List.exists_cons_of_length_eq_add_one h.symm
      have hrest := ih (Nat.succ.inj h)
      rw [List.cons_append, List.cons_append, orderKeys, orderKeys, hrest, Ordering.then_assoc]

/-- Sorting by later keys and then by earlier ones is sorting by all of them. The second
sort sees the rows at the places where the first one put them. -/
theorem Sorts.pick {first second moved : Nat → List Cell} {n : Nat} {positions places : List Nat}
    (h : Sorts second n positions) (h' : Sorts moved n places)
    (hmoved : ∀ i (hi : i < positions.length), moved i = first positions[i])
    (hlen : ∀ r < n, ∀ s < n, (first r).length = (first s).length) :
    Sorts (fun row => first row ++ second row) n (pick places positions) := by
  have hbounds : ∀ i ∈ places, i < positions.length := h.length.symm ▸ h'.bounds
  constructor
  · have hperm : (TableVerbs.pick places positions).Perm positions :=
      pick_perm (h.length.symm ▸ h'.perm)
    exact hperm.trans h.perm
  · rw [TableVerbs.pick, List.pairwise_filterMap]
    refine h'.ordered.imp_of_mem ?_
    intro i j hi hj hbefore r hr s hs
    obtain ⟨hi, rfl⟩ := List.getElem?_eq_some_iff.mp hr
    obtain ⟨hj, rfl⟩ := List.getElem?_eq_some_iff.mp hs
    have hkeys := Cell.orderKeys_append
      (hlen _ (h.bounds _ (List.getElem_mem hi)) _ (h.bounds _ (List.getElem_mem hj)))
      (second positions[i]) (second positions[j])
    rw [Precedes, hmoved i hi, hmoved j hj] at hbefore
    rcases hbefore with hless | ⟨hsame, hij⟩
    · refine .inl ?_
      rw [hkeys, hless]
      rfl
    · -- among rows of one earlier key the first sort decides
      rw [sameKey_iff.mp hsame] at hkeys
      have hlater := List.pairwise_iff_getElem.mp h.ordered i j hi hj hij
      rw [Precedes, sameKey] at hlater ⊢
      rw [hkeys]
      exact hlater

namespace Table

variable {t : Table} {columns : List Column} {positions : List Nat}

theorem sortPositions_eq_ok (h : ∀ c ∈ columns, c.length = t.rows) :
    t.sortPositions columns = .ok positions ↔ Sorts (keyAt columns) t.rows positions := by
  have hsorts := Sorts.mergeSort (keyAt columns) t.rows
  rw [sortPositions_eq h]
  constructor
  · intro hok
    cases hok
    exact hsorts
  · intro hpositions
    rw [hpositions.unique hsorts]

theorem rows_reordered (h : positions.Perm (List.range t.rows)) :
    (t.gather positions).rows = t.rows := by
  rw [rows_gather fun i hi => List.mem_range.mp (h.mem_iff.mp hi), h.length_eq, List.length_range]

end Table

theorem keyAt_append (first second : List Column) (row : Nat) :
    keyAt (first ++ second) row = keyAt first row ++ keyAt second row :=
  List.filterMap_append

theorem length_keyAt {columns : List Column} {n : Nat} (h : ∀ c ∈ columns, c.length = n)
    {row : Nat} (hrow : row < n) : (keyAt columns row).length = columns.length := by
  refine List.filterMap_length_eq_length.mpr fun c hc => ?_
  rw [Column.get?, List.getElem?_eq_getElem (by rw [Column.length_cells, h c hc]; exact hrow)]
  rfl

/-! ## Keys computed on reordered rows -/

/-- Where a part is all rows in another order, the part is done exactly if the whole
is. -/
theorem RowLocal.reordered {β : Type} {fits : β → Prop} {take : List Nat → β → β}
    {whole : Except Error β} {part : List Nat → Except Error β} {order : List Nat}
    (h : RowLocal (· = order) fits take whole part) {w : β} :
    part order = .ok w ↔ ∃ v, whole = .ok v ∧ take order v = w := by
  constructor
  · intro hw
    obtain ⟨v, hv⟩ := h.covered fun p hp => ⟨w, hp ▸ hw⟩
    have htake := (h.picked v hv).2 order rfl
    exact ⟨v, hv, Except.ok.inj (htake.symm.trans hw)⟩
  · rintro ⟨v, hv, rfl⟩
    exact (h.picked v hv).2 order rfl

/-- An argument whose values go with the rows: a text in which no function of the
scope is called, or a cell. -/
def Argument.FromRows (scope : Scope) : Argument → Prop
  | .text source => ∀ x, Expr.parse (String.ofList (fillRowCount source.toList)) = .ok x →
      ∀ name ∈ x.calls, name ≠ rowCountName → scope.find? name = none
  | .cell _ => True
  | .column _ | .table _ => False

section

variable {t : Table} {scope : Scope} {order : List Nat}

theorem Datum.rowLocal_toColumn {n : Nat} (horder : order.Perm (List.range n)) {v : Datum}
    (hv : v.Fits n) :
    RowLocal (· = order) (fun c => c.length = n) Column.take (v.toColumn n)
      fun p => (v.take p).toColumn n := by
  have hlen : order.length = n := by rw [horder.length_eq, List.length_range]
  have hbounds : ∀ i ∈ order, i < n := fun i hi => List.mem_range.mp (horder.mem_iff.mp hi)
  cases v with
  | cell v =>
      refine RowLocal.congr (.ok (Column.length_replicate n v)) ?_
      rintro p rfl
      show Except.ok (Column.replicate n v) = .ok ((Column.replicate n v).take p)
      rw [Column.take_replicate hbounds, hlen]
  | column c =>
      have hc : c.length = n := hv
      have htake : (c.take order).length = n := by
        rw [Column.length_take (hc.symm ▸ hbounds), hlen]
      simp only [toColumn, take, if_pos hc]
      refine RowLocal.congr (.ok hc) ?_
      rintro p rfl
      rw [if_pos htake]

theorem Argument.rowLocal_eval (hlen : t.Rectangular) (hn : 0 < t.rows)
    (horder : order.Perm (List.range t.rows)) {a : Argument} (ha : a.FromRows scope) :
    RowLocalDatum (· = order) t.rows (a.eval t scope) fun p => a.eval (t.gather p) scope := by
  have hcovers := covers_perm hn horder
  cases a with
  | text source =>
      simp only [eval, Scope.eval]
      cases hparse : Expr.parse (String.ofList (fillRowCount source.toList)) with
      | error e =>
          simp only
          exact .error (hcovers.exists_pick hn)
      | ok x =>
          exact Expr.rowLocal_rectangular hlen hcovers hn x
            ⟨ha x hparse, .inr fun p hp => hp ▸ horder⟩
  | cell v => exact .ok trivial
  | column d => exact absurd ha id
  | table u => exact absurd ha id

/-- On reordered rows an argument has the values that it had, reordered. -/
theorem Argument.evalColumn_gather (hlen : t.Rectangular) (horder : order.Perm (List.range t.rows))
    {a : Argument} (ha : a.FromRows scope) {c : Column} :
    a.evalColumn (t.gather order) scope = .ok c ↔
      ∃ d, a.evalColumn t scope = .ok d ∧ d.take order = c := by
  rcases Nat.eq_zero_or_pos t.rows with hnone | hn
  · -- without rows there is only one order
    have horder' : order = List.range t.rows := by
      rw [hnone, List.range_zero] at horder ⊢
      exact horder.eq_nil
    rw [horder', Table.gather_range hlen]
    constructor
    · intro hc
      exact ⟨c, hc, Column.take_range (evalColumn_length hc)⟩
    · rintro ⟨d, hd, rfl⟩
      rwa [Column.take_range (evalColumn_length hd)]
  · have hlocal := (rowLocal_eval hlen hn horder ha).bind fun v _ hv =>
      Datum.rowLocal_toColumn horder hv
    rw [evalColumn_eq, evalColumn_eq, Table.rows_reordered horder]
    exact hlocal.reordered

/-- So do several. -/
theorem Argument.evalColumns_gather (hlen : t.Rectangular)
    (horder : order.Perm (List.range t.rows)) {keys : List Argument}
    (hkeys : ∀ a ∈ keys, a.FromRows scope) {columns : List Column} :
    keys.mapM (fun a => a.evalColumn (t.gather order) scope) = .ok columns ↔
      ∃ before, keys.mapM (fun a => a.evalColumn t scope) = .ok before ∧
        before.map (fun c => c.take order) = columns := by
  simp only [mapM_eq_ok]
  induction keys generalizing columns with
  | nil => simp [eq_comm]
  | cons a keys ih =>
      obtain ⟨ha, hkeys⟩ := List.forall_mem_cons.mp hkeys
      simp only [List.forall₂_cons_left_iff, evalColumn_gather hlen horder ha, ih hkeys]
      constructor
      · rintro ⟨_, _, ⟨c, hc, rfl⟩, ⟨before, hbefore, rfl⟩, rfl⟩
        exact ⟨c :: before, ⟨c, before, hc, hbefore, rfl⟩, rfl⟩
      · rintro ⟨_, ⟨c, before, hc, hbefore, rfl⟩, rfl⟩
        exact ⟨_, _, ⟨c, hc, rfl⟩, ⟨before, hbefore, rfl⟩, rfl⟩

theorem Argument.evalColumns_length {keys : List Argument} {columns : List Column}
    (h : keys.mapM (fun a => a.evalColumn t scope) = .ok columns) :
    ∀ c ∈ columns, c.length = t.rows := by
  intro c hc
  obtain ⟨a, _, ha⟩ := mem_of_mapM h hc
  exact evalColumn_length ha

end

/-! ## Datasets in order -/

namespace Dataset

variable {d : Dataset}

/-- Arranging is picking the rows in the order of their keys. -/
theorem Regular.arrange_eq_ok (hd : d.Regular) {scope : Scope} {keys : List Argument}
    {d' : Dataset} :
    d.arrange scope keys = .ok d' ↔
      ∃ columns positions, keys.mapM (fun a => a.evalColumn d.table scope) = .ok columns ∧
        Sorts (keyAt columns) d.table.rows positions ∧
        d' = d.withTable (d.table.gather positions) := by
  have hretag : ∀ positions, d.retag (d.table.gather positions) =
      d.withTable (d.table.gather positions) := fun _ => hd.retag_eq Table.names_gather
  cases keys with
  | nil =>
      -- rows without keys are in order as they stand
      have hsorts := (Sorts.mergeSort (keyAt []) d.table.rows).range fun _ _ => rfl
      have hsame : d.withTable (d.table.gather (List.range d.table.rows)) = d := by
        rw [Table.gather_range hd.rectangular, withTable_self]
      constructor
      · intro h
        cases h
        exact ⟨[], _, rfl, hsorts, hsame.symm⟩
      · rintro ⟨columns, positions, hcolumns, hpositions, rfl⟩
        cases hcolumns
        rw [hpositions.unique hsorts, hsame]
        rfl
  | cons key rest =>
      rw [arrange, List.isEmpty_cons, if_neg Bool.false_ne_true, map_eq_ok]
      simp only [hretag, Table.order]
      cases hcolumns : (key :: rest).mapM fun a => a.evalColumn d.table scope with
      | error e => simp
      | ok columns =>
          simp only [Table.sortPositions_eq_ok (Argument.evalColumns_length hcolumns)]
          constructor
          · rintro ⟨positions, hpositions, rfl⟩
            exact ⟨columns, positions, rfl, hpositions, rfl⟩
          · rintro ⟨_, positions, hok, hpositions, rfl⟩
            cases hok
            exact ⟨positions, hpositions, rfl⟩

/-- Arranging rows that have been put in some order picks from the positions that they
came from. -/
theorem Regular.arrange_gather (hd : d.Regular) {scope : Scope} {keys : List Argument}
    (hkeys : ∀ a ∈ keys, a.FromRows scope) {positions : List Nat}
    (hperm : positions.Perm (List.range d.table.rows)) {d' : Dataset} :
    (d.withTable (d.table.gather positions)).arrange scope keys = .ok d' ↔
      ∃ columns places, keys.mapM (fun a => a.evalColumn d.table scope) = .ok columns ∧
        Sorts (keyAt (columns.map fun c => c.take positions)) d.table.rows places ∧
        d' = d.withTable (d.table.gather (pick places positions)) := by
  have hbounds : ∀ i ∈ positions, i < d.table.rows :=
    fun i hi => List.mem_range.mp (hperm.mem_iff.mp hi)
  have hagain : ∀ places, (d.withTable (d.table.gather positions)).withTable
      ((d.table.gather positions).gather places) =
        d.withTable (d.table.gather (pick places positions)) := by
    intro places
    rw [withTable_withTable, Table.gather_gather hd.rectangular hbounds]
  simp only [(hd.gather positions).arrange_eq_ok, table_withTable, Table.rows_reordered hperm,
    hagain, Argument.evalColumns_gather hd.rectangular hperm hkeys]
  constructor
  · rintro ⟨_, places, ⟨columns, hcolumns, rfl⟩, hplaces, rfl⟩
    exact ⟨columns, places, hcolumns, hplaces, rfl⟩
  · rintro ⟨columns, places, hcolumns, hplaces, rfl⟩
    exact ⟨_, places, ⟨columns, hcolumns, rfl⟩, hplaces, rfl⟩

/-- Rows in order are left where they are. -/
theorem Regular.arrange_again (hd : d.Regular) {scope : Scope} {keys : List Argument}
    (hkeys : ∀ a ∈ keys, a.FromRows scope) {d' : Dataset} (h : d.arrange scope keys = .ok d') :
    d'.arrange scope keys = .ok d' := by
  obtain ⟨columns, positions, hcolumns, hpositions, rfl⟩ := hd.arrange_eq_ok.mp h
  have hlengths := Argument.evalColumns_length hcolumns
  have hinPlace : Sorts (keyAt (columns.map fun c => c.take positions)) d.table.rows
      (List.range d.table.rows) :=
    hpositions.range fun i hi => Table.keyAt_take hlengths hpositions.bounds hi
  refine (hd.arrange_gather hkeys hpositions.perm).mpr ⟨columns, _, hcolumns, hinPlace, ?_⟩
  rw [← hpositions.length, pick_range]

/-- Arranging by some keys and then by others puts the others first. -/
theorem Regular.arrange_append (hd : d.Regular) {scope : Scope} {first second : List Argument}
    (hfirst : ∀ a ∈ first, a.FromRows scope) {d' : Dataset} :
    d.arrange scope (first ++ second) = .ok d' ↔
      ∃ mid, d.arrange scope second = .ok mid ∧ mid.arrange scope first = .ok d' := by
  have hpick : ∀ {earlier later positions places},
      first.mapM (fun a => a.evalColumn d.table scope) = .ok earlier →
      Sorts (keyAt later) d.table.rows positions →
      Sorts (keyAt (earlier.map fun c => c.take positions)) d.table.rows places →
      Sorts (keyAt (earlier ++ later)) d.table.rows (pick places positions) := by
    intro earlier later positions places hearlier hpositions hplaces
    have hlengths := Argument.evalColumns_length hearlier
    have hsorts := hpositions.pick hplaces
      (fun i hi => Table.keyAt_take hlengths hpositions.bounds hi)
      fun r hr s hs => (length_keyAt hlengths hr).trans (length_keyAt hlengths hs).symm
    rwa [← funext (keyAt_append earlier later)] at hsorts
  constructor
  · intro h
    obtain ⟨columns, order, hcolumns, horder, rfl⟩ := hd.arrange_eq_ok.mp h
    obtain ⟨earlier, later, hearlier, hlater, rfl⟩ := mapM_append_eq_ok.mp hcolumns
    obtain ⟨positions, hpositions⟩ : ∃ positions, Sorts (keyAt later) d.table.rows positions :=
      ⟨_, Sorts.mergeSort _ _⟩
    have hplaces := Sorts.mergeSort (keyAt (earlier.map fun c => c.take positions)) d.table.rows
    refine ⟨_, hd.arrange_eq_ok.mpr ⟨later, _, hlater, hpositions, rfl⟩, ?_⟩
    refine (hd.arrange_gather hfirst hpositions.perm).mpr ⟨earlier, _, hearlier, hplaces, ?_⟩
    rw [horder.unique (hpick hearlier hpositions hplaces)]
  · rintro ⟨mid, hmid, h⟩
    obtain ⟨later, positions, hlater, hpositions, rfl⟩ := hd.arrange_eq_ok.mp hmid
    obtain ⟨earlier, places, hearlier, hplaces, rfl⟩ :=
      (hd.arrange_gather hfirst hpositions.perm).mp h
    exact hd.arrange_eq_ok.mpr ⟨earlier ++ later, _,
      mapM_append_eq_ok.mpr ⟨earlier, later, hearlier, hlater, rfl⟩,
      hpick hearlier hpositions hplaces, rfl⟩

end Dataset

/-- Arranging sorts, and stably. A success gives the rows of the input, each with its
values and its label and under the same keys, at positions that put the evaluated key
tuples in order, and rows of one tuple as they were. Where the values of the keys go
with the rows, arranging again by the same keys changes nothing; and to arrange by some
keys and then by others in front of them is to arrange by all. -/
theorem Session.arrange_sorts (s : Session) (defaults : Options) {d : Dataset} (hd : d.Regular) :
    (∀ keys out, (s.apply defaults d (.arrange keys)).outcome = .ok out →
      ∃ columns positions, keys.mapM (fun a => a.evalColumn d.table s.scope) = .ok columns ∧
        (∀ c ∈ columns, c.length = d.table.rows) ∧
        Sorts (keyAt columns) d.table.rows positions ∧
        out = .data (d.withTable (d.table.gather positions))) ∧
    (∀ keys, (∀ a ∈ keys, a.FromRows s.scope) →
      ∀ d', (s.apply defaults d (.arrange keys)).outcome = .ok (.data d') →
        (s.apply defaults d' (.arrange keys)).outcome = .ok (.data d')) ∧
    ∀ first second, (∀ a ∈ first, a.FromRows s.scope) →
      ∀ d', (s.apply defaults d (.arrange (first ++ second))).outcome = .ok (.data d') ↔
        ∃ mid, (s.apply defaults d (.arrange second)).outcome = .ok (.data mid) ∧
          (s.apply defaults mid (.arrange first)).outcome = .ok (.data d') := by
  have houtcome : ∀ {d keys out}, (s.apply defaults d (.arrange keys)).outcome = .ok out ↔
      ∃ d', d.arrange s.scope keys = .ok d' ∧ .data d' = out := map_eq_ok
  have hdata : ∀ {d keys d'}, (s.apply defaults d (.arrange keys)).outcome = .ok (.data d') ↔
      d.arrange s.scope keys = .ok d' := by
    intro d keys d'
    simp only [houtcome, Output.data.injEq, exists_eq_right]
  simp only [hdata]
  refine ⟨?_, ?_, ?_⟩
  · intro keys out h
    obtain ⟨d', hd', rfl⟩ := houtcome.mp h
    obtain ⟨columns, positions, hcolumns, hpositions, rfl⟩ := hd.arrange_eq_ok.mp hd'
    exact ⟨columns, positions, hcolumns, Argument.evalColumns_length hcolumns, hpositions, rfl⟩
  · intro keys hkeys d' h
    exact hd.arrange_again hkeys h
  · intro first second hfirst d'
    exact hd.arrange_append hfirst

/-- Four grouped rows in the order of one column and then of another, negated. -/
theorem Session.arrange_sorts_twice :
    ∃ mid, (Session.apply ⟨none, Scope.empty, Draws.first⟩ Options.standard
        (.grouped ⟨⟨[("g", .strs ["b", "a", "b", "a"]), ("v", .ints [1, 1, 2, 2])],
          [4, 5, 6, 7]⟩, ["g"]⟩) (.arrange [.text "g"])).outcome = .ok (.data mid) ∧
      (Session.apply ⟨none, Scope.empty, Draws.first⟩ Options.standard mid
        (.arrange [.text "-v"])).outcome =
          .ok (.data (.grouped ⟨⟨[("g", .strs ["a", "b", "a", "b"]), ("v", .ints [2, 2, 1, 1])],
            [7, 6, 5, 4]⟩, ["g"]⟩)) := by
  have hregular : Dataset.Regular (.grouped ⟨⟨[("g", .strs ["b", "a", "b", "a"]),
      ("v", .ints [1, 1, 2, 2])], [4, 5, 6, 7]⟩, ["g"]⟩) :=
    Dataset.WellFormed.regular ⟨⟨by decide, by decide⟩, by decide, by decide, by decide⟩
  have hkeys : [Argument.text "-v", .text "g"].mapM (fun a => a.evalColumn
      ⟨[("g", .strs ["b", "a", "b", "a"]), ("v", .ints [1, 1, 2, 2])], [4, 5, 6, 7]⟩ Scope.empty) =
        .ok [.ints [-1, -1, -2, -2], .strs ["b", "a", "b", "a"]] := by cbv
  have hsorts : Sorts (keyAt [.ints [-1, -1, -2, -2], .strs ["b", "a", "b", "a"]]) 4
      [3, 2, 1, 0] := ⟨by decide, by decide⟩
  have harranged := hregular.arrange_eq_ok.mpr ⟨_, _, hkeys, hsorts, rfl⟩
  have hfree : ∀ a ∈ [Argument.text "-v"], a.FromRows Scope.empty :=
    List.forall_mem_singleton.mpr fun _ _ _ _ _ => rfl
  refine ((Session.arrange_sorts _ _ hregular).2.2 [.text "-v"] [.text "g"] hfree _).mp ?_
  exact congrArg (Except.map Output.data) harranged

end TableVerbs
