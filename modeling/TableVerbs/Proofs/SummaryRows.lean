import TableVerbs.Proofs.BuiltTables
import TableVerbs.Verb.PerGroup

/-!
# The row of a group

Where every expression of a summary comes to a cell, the summary of a group is
one row. Its columns are set one after another, and a name that comes again
replaces its cell and keeps its place; so the names are those given, in the order
of first occurrence, and the cell of a name is the last one given for it. The
keys go in front unless one of them is a name already, which fails.
-/

namespace TableVerbs

/-- A row of cells under their names. -/
def Table.oneRow (names : List String) (cell : String → Cell) : Table :=
  ⟨names.map fun name => (name, .replicate 1 (cell name)), List.range 1⟩

/-- The last cell of a name. -/
def lastCell (items : List (String × Cell)) (name : String) : Cell :=
  (items.reverse.lookup name).getD .missing

/-- The table of cells is a row of them. -/
theorem Table.BuiltOf.eq_oneRow {items : List (String × Cell)} {t : Table}
    (h : t.BuiltOf (items.map fun item => (item.1, .cell item.2))) :
    t = Table.oneRow (withoutRepeats (items.map Prod.fst)) (lastCell items) := by
  have hrows : decidedRows (items.map fun item => (item.1, .cell item.2)) = 1 := by
    cases items <;> rfl
  have hnames : t.names = withoutRepeats (items.map Prod.fst) := by
    rw [h.names, List.map_map]
    rfl
  have hfound : ∀ name ∈ t.names, t.find? name = some (.replicate 1 (lastCell items name)) := by
    intro name hname
    rw [hnames, mem_withoutRepeats] at hname
    obtain ⟨v, hv⟩ := exists_lookup_reverse hname
    have hlast : (items.map fun item => (item.1, Datum.cell item.2)).reverse.lookup name =
        some (.cell v) := by
      rw [← List.map_reverse, lookup_map, hv]
      rfl
    rw [h.cells name v hlast, hrows, lastCell, hv]
    rfl
  have hcolumns : t.columns = t.names.map fun name => (name, .replicate 1 (lastCell items name)) :=
    eq_map_of_lookup (show t.names.Nodup from hnames ▸ nodup_withoutRepeats _) hfound
  refine Table.eq_of_parts ?_ ?_
  · rw [hcolumns, hnames, Table.oneRow]
  · rw [h.labels, hrows, Table.oneRow]

/-- Where every value is a cell, the table of the values is a row. -/
theorem Table.ofValues_cells {α : Type} {value : α → Except Error Datum} {cell : α → Cell}
    {items : List (String × α)}
    (hcells : ∀ item ∈ items, value item.2 = .ok (.cell (cell item.2))) :
    Table.ofValues value items = .ok (Table.oneRow (withoutRepeats (items.map Prod.fst))
      (lastCell (items.map fun item => (item.1, cell item.2)))) := by
  have hvalues : List.Forall₂ (fun item v => item.1 = v.1 ∧ value item.2 = .ok v.2) items
      ((items.map fun item => (item.1, cell item.2)).map fun item => (item.1, .cell item.2)) := by
    rw [List.map_map, List.forall₂_map_right_iff, List.forall₂_same]
    exact fun item hitem => ⟨rfl, hcells item hitem⟩
  obtain ⟨t, ht⟩ : ∃ t, Table.ofValues .ok
      ((items.map fun item => (item.1, cell item.2)).map fun item => (item.1, .cell item.2)) =
        .ok t := by
    refine Table.ofValues_succeeds.mpr fun name c hmem => ?_
    obtain ⟨_, _, hcell⟩ := List.mem_map.mp hmem
    cases hcell
  rw [Table.ofValues_computed hvalues, ht, (Table.builtOf_ofValues ht).eq_oneRow, List.map_map]
  rfl

/-! ## Putting the keys in front -/

namespace Table

/-- Keys of new names are put in front, whatever is done about others. -/
theorem insertKeys_fresh (keep : Bool) {before keys columns : List (String × Column)}
    {labels : List Nat} (hlengths : ∀ k ∈ keys, k.2.length = labels.length)
    (hnodup : (keys.map Prod.fst).Nodup)
    (hfresh : ∀ k ∈ keys, k.1 ∉ (before ++ columns).map Prod.fst) :
    insertKeys keep before.length keys ⟨before ++ columns, labels⟩ =
      .ok ⟨before ++ keys ++ columns, labels⟩ := by
  induction keys generalizing before with
  | nil =>
      rw [List.append_nil]
      rfl
  | cons key rest ih =>
      obtain ⟨name, c⟩ := key
      obtain ⟨hlength, hlengths⟩ := List.forall_mem_cons.mp hlengths
      obtain ⟨hname, hnodup⟩ := List.nodup_cons.mp hnodup
      obtain ⟨hnew, hfresh⟩ := List.forall_mem_cons.mp hfresh
      have hhas : has ⟨before ++ columns, labels⟩ name = false := by
        rw [← Bool.not_eq_true, has_iff]
        exact hnew
      have hinsert : insertColumn before.length name c ⟨before ++ columns, labels⟩ =
          .ok ⟨(before ++ [(name, c)]) ++ columns, labels⟩ := by
        have hrows : c.length = rows ⟨before ++ columns, labels⟩ := hlength
        rw [insertColumn, if_neg (by rw [hhas]; exact Bool.false_ne_true),
          if_neg (not_not.mpr hrows), List.take_left, List.drop_left, List.append_assoc]
        rfl
      have hnext := @ih (before ++ [(name, c)]) hlengths hnodup fun k hk hmem => by
        have hkname : k.1 ≠ name := fun e => hname (List.mem_map.mpr ⟨k, hk, e⟩)
        refine hfresh k hk ?_
        simp only [List.map_append, List.map_cons, List.map_nil, List.mem_append,
          List.mem_singleton] at hmem ⊢
        tauto
      rw [List.length_append, List.length_singleton] at hnext
      rw [insertKeys, hinsert, hhas, Bool.and_false, if_neg Bool.false_ne_true]
      refine hnext.trans ?_
      rw [List.append_assoc before, List.singleton_append]

theorem insertKeys_taken {place : Nat} {keys : List (String × Column)} {t : Table}
    (h : ∃ k ∈ keys, k.1 ∈ t.names) : ∃ e, t.insertKeys false place keys = .error e := by
  induction keys generalizing t place with
  | nil =>
      obtain ⟨k, hk, _⟩ := h
      cases hk
  | cons key rest ih =>
      obtain ⟨name, c⟩ := key
      obtain ⟨k, hk, hmem⟩ := h
      rw [insertKeys, Bool.false_and, if_neg Bool.false_ne_true]
      split
      · next e _ => exact ⟨e, rfl⟩
      next t' ht' =>
        rw [insertColumn] at ht'
        split at ht'
        · cases ht'
        next hhas =>
          split at ht'
          · cases ht'
          cases ht'
          rcases List.mem_cons.mp hk with rfl | hk
          · exact absurd (has_iff.mpr hmem) hhas
          · refine ih ⟨k, hk, ?_⟩
            have hsplit := List.take_append_drop place t.columns
            rw [names, ← hsplit] at hmem
            simp only [names, List.map_append, List.map_cons, List.mem_append,
              List.mem_cons] at hmem ⊢
            tauto

end Table

end TableVerbs
