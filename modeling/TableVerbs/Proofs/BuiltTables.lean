import TableVerbs.Proofs.AssignedColumns
import TableVerbs.Verb.Draft

/-!
# Tables of values

A table that is built from values has its rows before it has a column: the first
value decides how many there are, and no later one changes that. Building is then
no more than making a column of that many rows of every value and assigning these
to a table of the rows alone, so that what is known of assigned columns is known of
the values. What can go wrong is the making of a column, and only where the value
is a column already and has another length.
-/

namespace TableVerbs

/-- The number of rows that the first of some values decides: its own, or one if it is a
cell. Without a value there is one. -/
def decidedRows : List (String × Datum) → Nat
  | [] => 1
  | (_, v) :: _ => v.length?.getD 1

theorem Datum.toColumn_eq_error {d : Datum} {rows : Nat} {e : Error} :
    d.toColumn rows = .error e ↔
      ∃ c, d = .column c ∧ c.length ≠ rows ∧ e = .valueLength c.length rows := by
  cases d with
  | cell v => simp [toColumn]
  | column c =>
      rw [toColumn]
      by_cases h : c.length = rows
      · simp [h]
      · rw [if_neg h, Except.error.injEq]
        constructor
        · rintro rfl
          exact ⟨c, rfl, h, rfl⟩
        · rintro ⟨_, hc, _, rfl⟩
          cases hc
          rfl

/-! ## The columns of the values -/

namespace Draft

variable {α : Type} {value : α → Except Error Datum} {rows : Nat}
  {values : List (String × Datum)} {columns : List (String × Column)}

/-- The columns of some values, each of this many rows. -/
def toColumns (rows : Nat) (values : List (String × Datum)) :
    Except Error (List (String × Column)) :=
  values.mapM fun v => (v.2.toColumn rows).map fun c => (v.1, c)

theorem toColumns_cons (rows : Nat) (name : String) (d : Datum) (rest : List (String × Datum)) :
    toColumns rows ((name, d) :: rest) = (d.toColumn rows).bind fun c =>
      (toColumns rows rest).map fun columns => (name, c) :: columns := by
  rw [toColumns, toColumns, List.mapM_cons]
  cases d.toColumn rows with
  | error e => rfl
  | ok c => cases rest.mapM fun v => (v.2.toColumn rows).map fun c => (v.1, c) <;> rfl

theorem toColumns_eq_ok : toColumns rows values = .ok columns ↔
    List.Forall₂ (fun v c => v.1 = c.1 ∧ v.2.toColumn rows = .ok c.2) values columns :=
  mapM_named_eq_ok (f := Datum.toColumn rows)

/-- A cell fits any number of rows, so only columns have a say. -/
theorem toColumns_succeeds : (∃ columns, toColumns rows values = .ok columns) ↔
    ∀ name c, (name, .column c) ∈ values → c.length = rows := by
  simp only [toColumns, mapM_succeeds, map_eq_ok]
  constructor
  · intro h name c hmem
    obtain ⟨_, c', hc', _⟩ := h _ hmem
    exact Datum.toColumn_succeeds.mp ⟨c', hc'⟩ c.length rfl
  · rintro h ⟨name, d⟩ hmem
    have hfits : ∀ n ∈ d.length?, n = rows := by
      intro n hn
      cases d with
      | cell v => cases hn
      | column c =>
          cases hn
          exact h name c hmem
    obtain ⟨c, hc⟩ := Datum.toColumn_succeeds.mpr hfits
    exact ⟨_, c, hc, rfl⟩

/-- The first column of another length is the failure. -/
theorem toColumns_fails {e : Error} (h : toColumns rows values = .error e) :
    ∃ before name c after, values = before ++ (name, .column c) :: after ∧
      (∀ other c', (other, .column c') ∈ before → c'.length = rows) ∧
      c.length ≠ rows ∧ e = .valueLength c.length rows := by
  obtain ⟨before, ⟨name, d⟩, after, rfl, hbefore, hd⟩ := mapM_eq_error.mp h
  obtain ⟨c, rfl, hlength, rfl⟩ := Datum.toColumn_eq_error.mp (map_eq_error.mp hd)
  exact ⟨before, name, c, after, rfl, toColumns_succeeds.mp (mapM_succeeds.mpr hbefore),
    hlength, rfl⟩

/-- The columns all fit the rows they were made for. -/
theorem assigns_toColumns (h : toColumns rows values = .ok columns) :
    ∃ t, (Table.ofRows rows).setColumns columns = .ok t := by
  refine Table.setColumns_succeeds fun c hc => ?_
  obtain ⟨v, _, hv⟩ := mem_of_mapM h hc
  obtain ⟨_, hcolumn, rfl⟩ := map_eq_ok.mp hv
  exact (Datum.toColumn_length hcolumn).trans List.length_range.symm

/-! ## Adding them -/

/-- Values may be computed before the first of them is added. -/
theorem pushAll_computed {items : List (String × α)}
    (h : List.Forall₂ (fun item v => item.1 = v.1 ∧ value item.2 = .ok v.2) items values)
    (draft : Draft) : pushAll value items draft = pushAll .ok values draft := by
  induction h generalizing draft with
  | nil => rfl
  | @cons item v _ _ hitem _ ih =>
      obtain ⟨name, a⟩ := item
      obtain ⟨_, d⟩ := v
      obtain ⟨rfl, hvalue⟩ := hitem
      simp only [pushAll, hvalue]
      cases draft.push name d with
      | error e => rfl
      | ok next => exact ih next

/-- Nothing is added that was not computed. -/
theorem exists_computed {items : List (String × α)} {draft next : Draft}
    (h : pushAll value items draft = .ok next) : ∃ values : List (String × Datum),
      List.Forall₂ (fun item v => item.1 = v.1 ∧ value item.2 = .ok v.2) items values := by
  induction items generalizing draft with
  | nil => exact ⟨[], .nil⟩
  | cons item rest ih =>
      obtain ⟨name, a⟩ := item
      rw [pushAll] at h
      split at h
      · cases h
      next v hv =>
        split at h
        · cases h
        next hpush =>
          obtain ⟨values, hvalues⟩ := ih h
          exact ⟨(name, v) :: values, .cons ⟨rfl, hv⟩ hvalues⟩

theorem push_some (t : Table) (name : String) (d : Datum) :
    push (some t) name d = (d.toColumn t.rows).map fun c =>
      some ⟨Table.putColumn name c t.columns, t.labels⟩ := by
  simp only [push, Option.getD_some]
  cases hd : d.toColumn t.rows with
  | error e => rfl
  | ok c =>
      simp only [Table.setColumn_of_length (Datum.toColumn_length hd)]
      rfl

theorem pushAll_cons (name : String) (d : Datum) (rest : List (String × Datum)) (draft : Draft) :
    pushAll .ok ((name, d) :: rest) draft = (draft.push name d).bind (pushAll .ok rest) := by
  simp only [pushAll]
  cases draft.push name d <;> rfl

/-- Once there are rows, all columns may be made before the first of them is set. -/
theorem pushAll_some (values : List (String × Datum)) (t : Table) :
    pushAll .ok values (some t) =
      ((toColumns t.rows values).bind fun columns => t.setColumns columns).map some := by
  induction values generalizing t with
  | nil => rfl
  | cons v rest ih =>
      obtain ⟨name, d⟩ := v
      rw [pushAll_cons, push_some, toColumns_cons]
      cases hd : d.toColumn t.rows with
      | error e => rfl
      | ok c =>
          show pushAll .ok rest (some ⟨Table.putColumn name c t.columns, t.labels⟩) = _
          rw [ih]
          -- the rows stay, so the rest is made into columns of the same number of rows
          show ((toColumns t.rows rest).bind _).map some = _
          cases toColumns t.rows rest with
          | error e => rfl
          | ok columns =>
              show _ = (Table.setColumns ((name, c) :: columns) t).map some
              rw [Table.setColumns, Table.setColumn_of_length (Datum.toColumn_length hd)]
              rfl

end Draft

/-! ## The table -/

namespace Table

variable {α : Type} {value : α → Except Error Datum} {values : List (String × Datum)} {t : Table}

theorem ofValues_computed {items : List (String × α)}
    (h : List.Forall₂ (fun item v => item.1 = v.1 ∧ value item.2 = .ok v.2) items values) :
    ofValues value items = ofValues .ok values := by
  rw [ofValues, ofValues, Draft.pushAll_computed h]

/-- A table of values is the table of its rows with their columns assigned. -/
theorem ofValues_eq (values : List (String × Datum)) :
    ofValues .ok values = (Draft.toColumns (decidedRows values) values).bind fun columns =>
      (ofRows (decidedRows values)).setColumns columns := by
  cases values with
  | nil => rfl
  | cons v rest =>
      have hfinish : ∀ x : Except Error Table, (x.map some).map Draft.finish = x := by
        intro x
        cases x <;> rfl
      have hrows : (ofRows (decidedRows (v :: rest))).rows = decidedRows (v :: rest) :=
        List.length_range
      -- the first value may find its rows already there, since it decides them
      have hfirst : Draft.pushAll .ok (v :: rest) none =
          Draft.pushAll .ok (v :: rest) (some (ofRows (decidedRows (v :: rest)))) := rfl
      rw [ofValues, hfirst, Draft.pushAll_some, hfinish, hrows]

theorem ofValues_succeeds : (∃ t, ofValues .ok values = .ok t) ↔
    ∀ name c, (name, .column c) ∈ values → c.length = decidedRows values := by
  rw [ofValues_eq, ← Draft.toColumns_succeeds]
  constructor
  · rintro ⟨t, h⟩
    obtain ⟨columns, hcolumns, _⟩ := bind_eq_ok.mp h
    exact ⟨columns, hcolumns⟩
  · rintro ⟨columns, hcolumns⟩
    obtain ⟨t, ht⟩ := Draft.assigns_toColumns hcolumns
    exact ⟨t, bind_eq_ok.mpr ⟨columns, hcolumns, ht⟩⟩

theorem ofValues_fails {e : Error} (h : ofValues .ok values = .error e) :
    Draft.toColumns (decidedRows values) values = .error e := by
  rw [ofValues_eq] at h
  cases hcolumns : Draft.toColumns (decidedRows values) values with
  | error e' =>
      rw [hcolumns] at h
      cases h
      rfl
  | ok columns =>
      obtain ⟨t, ht⟩ := Draft.assigns_toColumns hcolumns
      rw [hcolumns] at h
      cases ht.symm.trans h

/-- What a table has of the values that it is built from: the rows that the first one
decides, a column for each name in the order in which the names first occur, and in it
the last value of the name, a cell repeated on every row. -/
structure BuiltOf (values : List (String × Datum)) (t : Table) : Prop where
  labels : t.labels = List.range (decidedRows values)
  lengths : ∀ c ∈ t.columns, c.2.length = decidedRows values
  names : t.names = withoutRepeats (values.map Prod.fst)
  cells : ∀ name v, values.reverse.lookup name = some (.cell v) →
    t.find? name = some (.replicate (decidedRows values) v)
  columns : ∀ name c, values.reverse.lookup name = some (.column c) → t.find? name = some c

theorem BuiltOf.wellFormed (h : t.BuiltOf values) : t.WellFormed where
  lengths c hc := by rw [h.lengths c hc, rows, h.labels, List.length_range]
  names_nodup := h.names ▸ nodup_withoutRepeats _

theorem builtOf_ofValues (h : ofValues .ok values = .ok t) : t.BuiltOf values := by
  rw [ofValues_eq] at h
  obtain ⟨columns, hcolumns, hset⟩ := bind_eq_ok.mp h
  have hassigned := assigned_setColumns hset
  have hlabels : t.labels = List.range (decidedRows values) := hassigned.labels
  have hall := Draft.toColumns_eq_ok.mp hcolumns
  have hnames : columns.map Prod.fst = values.map Prod.fst :=
    map_fst_forall₂ (hall.imp fun _ _ hv => hv.1)
  have hfound : ∀ {name d}, values.reverse.lookup name = some d →
      ∃ c, d.toColumn (decidedRows values) = .ok c ∧ t.find? name = some c := by
    intro name d hd
    obtain ⟨c, hc, hcolumn⟩ := lookup_forall₂
      (R := fun d c => Datum.toColumn (decidedRows values) d = .ok c) (List.rel_reverse hall) hd
    exact ⟨c, hcolumn, by rw [hassigned.found, hc]; rfl⟩
  refine ⟨hlabels, fun c hc => ?_, ?_, fun name v hv => ?_, fun name c hc => ?_⟩
  · have hlength := ((wellFormed_of_labels _).setColumns hset).lengths c hc
    rw [hlength, rows, hlabels, List.length_range]
  · rw [hassigned.names, hnames]
    simp [ofRows, Table.names]
  · obtain ⟨c, hcolumn, hfind⟩ := hfound hv
    cases hcolumn
    exact hfind
  · obtain ⟨c', hcolumn, hfind⟩ := hfound hc
    rw [Datum.toColumn] at hcolumn
    split at hcolumn
    · cases hcolumn
      exact hfind
    · cases hcolumn

/-- Building a table from named values. It succeeds exactly if every column among the
values has the length that the first value decides, and otherwise the first column that
has not is reported. The table is that of the values: so many rows labelled from 0, and
a column for each name with the last value of that name. No values give one row without
columns. Nor does it matter what the values are computed from, or that they are computed
one by one. -/
theorem ofValues_built (values : List (String × Datum)) :
    ((∃ t, ofValues .ok values = .ok t) ↔
      ∀ name c, (name, .column c) ∈ values → c.length = decidedRows values) ∧
    (∀ t, ofValues .ok values = .ok t → t.BuiltOf values) ∧
    (∀ e, ofValues .ok values = .error e → ∃ before name c after,
      values = before ++ (name, .column c) :: after ∧
      (∀ other c', (other, .column c') ∈ before → c'.length = decidedRows values) ∧
      c.length ≠ decidedRows values ∧ e = .valueLength c.length (decidedRows values)) ∧
    (values = [] → ofValues .ok values = .ok ⟨[], [0]⟩) ∧
    ∀ (α : Type) (value : α → Except Error Datum) (items : List (String × α)),
      items.mapM (fun item => (value item.2).map fun v => (item.1, v)) = .ok values →
        ofValues value items = ofValues .ok values := by
  refine ⟨ofValues_succeeds, fun t h => builtOf_ofValues h, fun e h => ?_, fun h => ?_,
    fun α value items h => ?_⟩
  · exact Draft.toColumns_fails (ofValues_fails h)
  · rw [h]
    rfl
  · exact ofValues_computed (mapM_named_eq_ok.mp h)

/-- A name that is set as a column and again as a cell keeps its place and has the cell; a
cell in the first place leaves no room for a column of two. -/
theorem ofValues_built_again :
    BuiltOf [("x", .column (.ints [1, 2])), ("k", .cell (.str "a")), ("x", .cell (.bool true))]
      ⟨[("x", .bools [true, true]), ("k", .strs ["a", "a"])], [0, 1]⟩ ∧
    ¬∃ t, ofValues .ok [("k", .cell (.str "a")), ("x", .column (.ints [1, 2]))] = .ok t := by
  refine ⟨(ofValues_built _).2.1 _ rfl, fun h => ?_⟩
  have hlength := (ofValues_built _).1.mp h "x" (.ints [1, 2]) (by decide)
  cases hlength

end Table

end TableVerbs
