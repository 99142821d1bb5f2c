import TableVerbs.Proofs.WellFormedTable

/-!
# Tables that the operations make

A table has a history: it was put together from columns, or from rows alone, and
then changed again and again, and tables were stacked. A call that fails leaves
the table as it was. Whatever the history, there is a value for each label in
every column.

Distinct names are another matter. Putting a table together, inserting a column
and renaming refuse a name that comes twice, and setting a column replaces the
one of its name, but picking columns by names takes the names as they come. So
the names of a table are distinct if its history never asks for a name twice, and
one call that asks for a name twice and succeeds is enough to make them repeat.
-/

namespace TableVerbs.Table

variable {t t' : Table}

/-! ## Tables put together from columns -/

theorem fault?_eq_none {length : Nat} {seen : List String} {columns : List (String × Column)}
    (h : fault? length seen columns = none) :
    (∀ c ∈ columns, c.2.length = length) ∧ firstRepeat? seen (columns.map Prod.fst) = none := by
  induction columns generalizing seen with
  | nil => simp [firstRepeat?]
  | cons c rest ih =>
      obtain ⟨name, c⟩ := c
      rw [fault?] at h
      split at h
      · cases h
      next hlen =>
        split at h
        · cases h
        next hnew =>
          obtain ⟨hlengths, hnames⟩ := ih h
          refine ⟨List.forall_mem_cons.mpr ⟨not_not.mp hlen, hlengths⟩, ?_⟩
          rw [List.map_cons, firstRepeat?, if_neg hnew, hnames]

theorem wellFormed_ofColumns {columns : List (String × Column)} (h : ofColumns columns = .ok t) :
    t.WellFormed := by
  simp only [ofColumns] at h
  split at h
  · cases h
  next hfault =>
    cases h
    obtain ⟨hlengths, hnames⟩ := fault?_eq_none hfault
    refine ⟨fun c hc => ?_, (firstRepeat?_eq_none.mp hnames).1⟩
    rw [hlengths c hc]
    exact List.length_range.symm

/-! ## One operation -/

/-- The operations that make a table of another one. -/
inductive Op where
  | head (n : Nat)
  | tail (n : Nat)
  | take (positions : List Nat)
  | filter (mask : List Bool)
  | selectMask (mask : List Bool)
  | select (names : List String)
  | setColumn (name : String) (c : Column)
  | insertColumn (place : Nat) (name : String) (c : Column)
  | rename (mapping : List (String × String))
  | relabel
  | dropDuplicates (names : Option (List String)) (keep : Keep)

namespace Op

def run (t : Table) : Op → Except Error Table
  | head n => .ok (t.head n)
  | tail n => .ok (t.tail n)
  | take positions => t.take positions
  | filter mask => t.filter mask
  | selectMask mask => t.selectMask mask
  | select names => t.select names
  | setColumn name c => t.setColumn name c
  | insertColumn place name c => t.insertColumn place name c
  | rename mapping => t.rename mapping
  | relabel => .ok t.relabelled
  | dropDuplicates names keep => t.dropDuplicates names keep

/-- The table after an operation, which is the one before if it fails. -/
def after (t : Table) (op : Op) : Table :=
  match op.run t with
  | .ok t' => t'
  | .error _ => t

/-- Whether the operation asks for no name twice. -/
def NamesOnce : Op → Prop
  | select names => names.Nodup
  | _ => True

variable {op : Op}

theorem after_cases (t : Table) (op : Op) : op.after t = t ∨ op.run t = .ok (op.after t) := by
  rw [after]
  cases op.run t with
  | ok t' => exact .inr rfl
  | error _ => exact .inl rfl

theorem rectangular_run (ht : t.Rectangular) (h : op.run t = .ok t') : t'.Rectangular := by
  cases op with
  | head n | tail n =>
      cases h
      exact ht.gather _
  | take positions => exact ht.take h
  | filter mask => exact ht.filter h
  | selectMask mask => exact ht.selectMask h
  | select names => exact ht.select h
  | setColumn name c => exact ht.setColumn h
  | insertColumn place name c => exact ht.insertColumn h
  | rename mapping => exact ht.rename h
  | relabel =>
      cases h
      exact ht.relabelled
  | dropDuplicates names keep => exact ht.dropDuplicates h

theorem nodup_run (hop : op.NamesOnce) (hnames : t.names.Nodup) (h : op.run t = .ok t') :
    t'.names.Nodup := by
  cases op with
  | head n | tail n =>
      cases h
      exact names_gather.symm ▸ hnames
  | take positions => rwa [names_take h]
  | filter mask => rwa [names_filter h]
  | selectMask mask => exact hnames.sublist (names_selectMask h)
  | select names => rwa [names_select h]
  | setColumn name c => exact nodup_setColumn hnames h
  | insertColumn place name c => exact nodup_insertColumn hnames h
  | rename mapping => exact nodup_rename h
  | relabel =>
      cases h
      exact hnames
  | dropDuplicates names keep => rwa [names_dropDuplicates h]

end Op

/-! ## Histories -/

/-- The tables that can be made with the operations that are allowed. -/
inductive Made (allowed : Op → Prop) : Table → Prop where
  | ofColumns {columns : List (String × Column)} {t : Table} (h : ofColumns columns = .ok t) :
      Made allowed t
  | empty : Made allowed empty
  | ofRows (n : Nat) : Made allowed (ofRows n)
  | withoutColumns {t : Table} (h : Made allowed t) : Made allowed t.withoutColumns
  | after {t : Table} (h : Made allowed t) {op : Op} (hop : allowed op) : Made allowed (op.after t)
  | stack {tables : List Table} {t : Table} (h : ∀ u ∈ tables, Made allowed u)
      (hstack : stack tables = .ok t) : Made allowed t

namespace Made

variable {allowed : Op → Prop}

theorem rectangular (h : Made allowed t) : t.Rectangular := by
  induction h with
  | ofColumns h => exact (wellFormed_ofColumns h).lengths
  | empty | ofRows _ | withoutColumns _ _ => exact rectangular_of_labels _
  | @after t _ op _ ih =>
      -- a failed call leaves the table, so there is only the other case to see
      rcases op.after_cases t with hsame | hrun
      · rwa [hsame]
      · exact Op.rectangular_run ih hrun
  | stack _ hstack ih => exact Rectangular.stack ih hstack

theorem names_nodup (h : Made allowed t) (hallowed : ∀ op, allowed op → op.NamesOnce) :
    t.names.Nodup := by
  induction h with
  | ofColumns h => exact (wellFormed_ofColumns h).names_nodup
  | empty | ofRows _ | withoutColumns _ _ => exact List.nodup_nil
  | @after t _ op hop ih =>
      rcases op.after_cases t with hsame | hrun
      · rwa [hsame]
      · exact Op.nodup_run (hallowed op hop) ih hrun
  | stack _ hstack ih => exact nodup_stack ih hstack

/-- Every table that can be made has a value for each label in every column. It has
one column for each name if no operation asks for a name twice; picking columns
gives the names that it is asked for, so these must not repeat. -/
theorem shape (h : Made allowed t) :
    (∀ c ∈ t.columns, c.2.length = t.rows) ∧
      ((∀ op, allowed op → op.NamesOnce) →
        t.names.Nodup ∧ ∀ name ∈ t.names, ∃! c, c ∈ t.columns ∧ c.1 = name) ∧
      ∀ names t', t.select names = .ok t' → (t'.names.Nodup ↔ names.Nodup) := by
  refine ⟨h.rectangular, fun hallowed => ?_, fun names t' hselect => by rw [names_select hselect]⟩
  have hnames := h.names_nodup hallowed
  refine ⟨hnames, fun name hname => ?_⟩
  obtain ⟨c, hc, rfl⟩ := List.mem_map.mp hname
  refine ⟨c, ⟨hc, rfl⟩, ?_⟩
  rintro d ⟨hd, hsame⟩
  exact List.inj_on_of_nodup_map hnames hd hc hsame

end Made

/-- Two columns that trade names, with one row asked for twice. -/
theorem shape_traded :
    Op.NamesOnce (.rename [("a", "b"), ("b", "a")]) ∧ Op.NamesOnce (.take [1, 1]) ∧
      ∃ t, ofColumns [("a", .ints [5, 6]), ("b", .bools [true, false])] = .ok t ∧
        ((Op.take [1, 1]).after ((Op.rename [("a", "b"), ("b", "a")]).after t)).names = ["b", "a"] ∧
        ∃! c, c ∈ ((Op.take [1, 1]).after ((Op.rename [("a", "b"), ("b", "a")]).after t)).columns ∧
          c.1 = "a" := by
  refine ⟨trivial, trivial, ⟨[("a", .ints [5, 6]), ("b", .bools [true, false])], [0, 1]⟩,
    by decide, by decide, ?_⟩
  have hmade : Made Op.NamesOnce ⟨[("a", .ints [5, 6]), ("b", .bools [true, false])], [0, 1]⟩ :=
    .ofColumns (show ofColumns [("a", .ints [5, 6]), ("b", .bools [true, false])] = _ by decide)
  have htraded := hmade.after (show Op.NamesOnce (.rename [("a", "b"), ("b", "a")]) from trivial)
  have htaken := htraded.after (show Op.NamesOnce (.take [1, 1]) from trivial)
  exact (htaken.shape.2.1 fun _ hop => hop).2 "a" (by decide)

/-- A name that is asked for twice is there twice. -/
theorem select_repeats :
    Made (fun _ => True) ((Op.select ["x", "x"]).after ⟨[("x", .ints [1])], [0]⟩) ∧
      ((Op.select ["x", "x"]).after ⟨[("x", .ints [1])], [0]⟩).columns =
        [("x", .ints [1]), ("x", .ints [1])] ∧
      ¬ ((Op.select ["x", "x"]).after ⟨[("x", .ints [1])], [0]⟩).names.Nodup := by
  have hmade : Made (fun _ => True) ⟨[("x", .ints [1])], [0]⟩ :=
    .ofColumns (show ofColumns [("x", .ints [1])] = _ by decide)
  exact ⟨hmade.after trivial, by decide, by decide⟩

end TableVerbs.Table
