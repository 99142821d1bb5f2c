import TableVerbs.Proofs.ColumnCells
import TableVerbs.Proofs.Success
import TableVerbs.Verb.Edit

/-!
# Computed columns fit their table

Whatever an argument is, the column that is made of it has one value for each
row of the table it was computed on: a cell is repeated that often, and a
column of another length is refused. Setting computed columns can therefore
not fail, which is the difference between a verb that may stop half way and
one that cannot.
-/

namespace TableVerbs

theorem Datum.toColumn_length {d : Datum} {rows : Nat} {c : Column}
    (h : d.toColumn rows = .ok c) : c.length = rows := by
  cases d with
  | cell v =>
      cases h
      exact Column.length_replicate rows v
  | column c' =>
      simp only [Datum.toColumn] at h
      split at h
      · next hlen => cases h; exact hlen
      · cases h

/-- A column has to have a value for each row, and a cell fits any number of them. -/
theorem Datum.toColumn_succeeds {d : Datum} {rows : Nat} :
    (∃ c, d.toColumn rows = .ok c) ↔ ∀ n ∈ d.length?, n = rows := by
  cases d with
  | cell v => simp [toColumn, length?]
  | column c => by_cases h : c.length = rows <;> simp [toColumn, length?, h]

theorem Argument.evalColumn_eq (a : Argument) (t : Table) (scope : Scope) :
    a.evalColumn t scope = (a.eval t scope).bind (Datum.toColumn t.rows) := by
  rw [evalColumn]
  cases a.eval t scope <;> rfl

theorem Argument.evalColumn_length {a : Argument} {t : Table} {scope : Scope} {c : Column}
    (h : a.evalColumn t scope = .ok c) : c.length = t.rows := by
  simp only [Argument.evalColumn] at h
  split at h
  · cases h
  · exact Datum.toColumn_length h

theorem evalColumns_length {scope : Scope} {t : Table} {columns : List (String × Argument)}
    {values : List (String × Column)} (h : evalColumns scope t columns = .ok values) :
    ∀ v ∈ values, v.2.length = t.rows := by
  intro v hv
  obtain ⟨⟨name, a⟩, _, ha⟩ := mem_of_mapM h hv
  obtain ⟨c, hc, rfl⟩ := map_eq_ok.mp ha
  exact Argument.evalColumn_length hc

/-! ## Setting them -/

theorem Table.setColumn_of_length {name : String} {c : Column} {t : Table}
    (h : c.length = t.rows) : t.setColumn name c = .ok ⟨putColumn name c t.columns, t.labels⟩ := by
  rw [Table.setColumn, if_neg (not_not.mpr h)]

@[simp] theorem Dataset.table_withTable (t : Table) (d : Dataset) : (d.withTable t).table = t := by
  cases d <;> rfl

theorem Dataset.keys_withTable {d : Dataset} (t : Table) : (d.withTable t).keys = d.keys := by
  cases d <;> rfl

theorem Dataset.isGrouped_withTable {d : Dataset} (t : Table) :
    (d.withTable t).isGrouped = d.isGrouped := by
  cases d <;> rfl

theorem Dataset.withTable_withTable {d : Dataset} {t : Table} (u : Table) :
    (d.withTable t).withTable u = d.withTable u := by
  cases d <;> rfl

theorem Dataset.withTable_self {d : Dataset} : d.withTable d.table = d := by
  cases d <;> rfl

/-- What an edit in one step gives does not depend on where it is made. -/
theorem Edit.outcome_atOnce (f : Dataset → Except Error Dataset) (inPlace : Bool) (d : Dataset) :
    ((Edit.atOnce f).run inPlace d).outcome = f d := by
  simp only [Edit.run, Edit.atOnce]
  cases f d <;> rfl

/-- Columns that all fit are all set. -/
theorem Edit.setColumns_completes {values : List (String × Column)} {d : Dataset}
    (h : ∀ v ∈ values, v.2.length = d.table.rows) : (Edit.setColumns values d).2 = .ok () := by
  induction values generalizing d with
  | nil => rfl
  | cons v rest ih =>
      rw [Edit.setColumns, Table.setColumn_of_length (h v List.mem_cons_self)]
      refine ih fun w hw => ?_
      rw [Dataset.table_withTable]
      exact h w (List.mem_cons_of_mem _ hw)

end TableVerbs
