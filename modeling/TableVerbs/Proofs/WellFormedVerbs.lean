import TableVerbs.Proofs.BuiltTables
import TableVerbs.Proofs.WellFormedDataset
import TableVerbs.Session

/-!
# Verbs keep datasets well formed

Whatever a verb does to a well-formed dataset, the dataset that it gives is
well formed, and so is what it leaves of its input. The second is not a matter
of success: an edit in place that stops half way has set some of its columns,
and it has to have set them properly. So edits are followed step by step, and
the verbs that work on each group by what they do to one of them.

Nothing is asked of the functions in scope, since a column that an expression
gives is checked before it is used. A computation that returns a whole table is
not checked, and has to be trusted.
-/

namespace TableVerbs

/-! ## Results and inputs -/

/-- The input is left well formed, and the result, if there is one, is good. -/
structure Applied.Safe {α : Type} (good : α → Prop) (a : Applied α) : Prop where
  input : a.input.WellFormed
  output : ∀ x, a.outcome = .ok x → good x

section

variable {α β : Type} {good : α → Prop} {good' : β → Prop} {d : Dataset}

theorem Applied.safe_untouched (hd : d.WellFormed) {outcome : Except Error α}
    (h : ∀ x, outcome = .ok x → good x) : (Applied.untouched d outcome).Safe good := ⟨hd, h⟩

theorem Applied.Safe.map {a : Applied α} (h : a.Safe good) {f : α → β}
    (hf : ∀ x, good x → good' (f x)) : (a.map f).Safe good' where
  input := h.input
  output := by
    intro y hy
    obtain ⟨x, hx, rfl⟩ := map_eq_ok.mp hy
    exact hf x (h.output x hx)

theorem Applied.Safe.bind {a : Applied α} (h : a.Safe good) {f : α → Except Error β}
    (hf : ∀ x, good x → ∀ y, f x = .ok y → good' y) : (a.bind f).Safe good' := by
  rw [Applied.bind]
  split
  · next x hx => exact ⟨h.input, hf x (h.output x hx)⟩
  · exact ⟨h.input, fun _ hy => by cases hy⟩

/-- Wherever an edit ends, what it has made of the dataset is well formed. -/
theorem Edit.safe_run {edit : Edit} (hd : d.WellFormed) (h : (edit d).1.WellFormed)
    (inPlace : Bool) : (edit.run inPlace d).Safe Dataset.WellFormed where
  input := by
    cases inPlace with
    | true => exact h
    | false => exact hd
  output := by
    intro edited hedited
    obtain ⟨_, _, rfl⟩ := map_eq_ok.mp hedited
    exact h

end

theorem Edit.wellFormed_atOnce {f : Dataset → Except Error Dataset} {d : Dataset}
    (hd : d.WellFormed) (hf : ∀ d', f d = .ok d' → d'.WellFormed) :
    (Edit.atOnce f d).1.WellFormed := by
  rw [Edit.atOnce]
  split
  · next d' hd' => exact hf d' hd'
  · exact hd

/-- Setting columns, up to any of them. -/
theorem Edit.wellFormed_setColumns {values : List (String × Column)} {d : Dataset}
    (hd : d.WellFormed) : (Edit.setColumns values d).1.WellFormed := by
  induction values generalizing d with
  | nil => exact hd
  | cons v rest ih =>
      obtain ⟨name, c⟩ := v
      rw [Edit.setColumns]
      split
      · next t hset =>
          obtain ⟨ht, hnames⟩ := hd.table.setColumn hset
          exact ih (hd.withTable ht hnames)
      · exact hd

/-! ## Verbs on columns and rows -/

namespace Dataset

variable {d d' : Dataset}

theorem WellFormed.select (hd : d.WellFormed) {s : Selection} (h : s.run d = .ok d') :
    d'.WellFormed := by
  rw [Selection.run] at h
  split at h
  · cases h
  · obtain ⟨t, ht, rfl⟩ := map_eq_ok.mp h
    exact WellFormed.retag (hd.table.selectMask ht) d

theorem WellFormed.rename (hd : d.WellFormed) {mapping : List (String × String)}
    (h : d.rename mapping = .ok d') : d'.WellFormed := by
  rw [Dataset.rename] at h
  split at h
  · cases h
  next t ht =>
    have hwf := hd.table.rename ht
    split at h
    · cases h
      exact hwf
    · obtain ⟨g, hg, rfl⟩ := map_eq_ok.mp h
      exact hwf.ofKeys hg

theorem safe_mutate (hd : d.WellFormed) (inPlace : Bool) (scope : Scope)
    (columns : List NewColumn) : (d.mutate inPlace scope columns).Safe WellFormed := by
  rw [mutate]
  split
  · exact Applied.safe_untouched hd fun _ h => by cases h
  · exact Edit.safe_run hd (Edit.wellFormed_setColumns hd) inPlace

theorem WellFormed.keysOnly (hd : d.WellFormed) (h : d.keysOnly = .ok d') : d'.WellFormed := by
  rw [Dataset.keysOnly.eq_def] at h
  split at h
  · cases h
    exact Table.wellFormed_of_labels _
  next g =>
    have hg : g.WellFormed := hd
    split at h
    · cases h
    next t ht =>
      obtain ⟨g', hg', rfl⟩ := map_eq_ok.mp h
      exact (hg.table.select hg.keys_nodup ht).1.ofKeys hg'

theorem WellFormed.transmute (hd : d.WellFormed) {scope : Scope} {columns : List NewColumn}
    (h : d.transmute scope columns = .ok d') : d'.WellFormed := by
  rw [Dataset.transmute] at h
  split at h
  · cases h
  split at h
  · cases h
  next kept hkept =>
    have hwf := hd.keysOnly hkept
    exact (Edit.safe_run hwf (Edit.wellFormed_setColumns hwf) false).output d' h

theorem safe_distinct (hd : d.WellFormed) (s : Distinct) (inPlace : Bool) (scope : Scope) :
    (s.run inPlace scope d).Safe WellFormed := by
  have hsource : (if s.newColumns.isEmpty then Applied.untouched d (.ok d)
      else d.mutate inPlace scope s.newColumns).Safe WellFormed := by
    split
    · exact Applied.safe_untouched hd fun _ h => by cases h; exact hd
    · exact safe_mutate hd inPlace scope s.newColumns
  refine hsource.bind fun source hwf out hout => ?_
  obtain ⟨t, ht, rfl⟩ := map_eq_ok.mp hout
  exact WellFormed.retag (hwf.table.dropDuplicates ht) source

theorem WellFormed.arrange (hd : d.WellFormed) {scope : Scope} {keys : List Argument}
    (h : d.arrange scope keys = .ok d') : d'.WellFormed := by
  rw [Dataset.arrange] at h
  split at h
  · cases h
    exact hd
  · obtain ⟨positions, _, rfl⟩ := map_eq_ok.mp h
    exact WellFormed.retag (hd.table.gather positions) d

theorem safe_regroup (hd : d.WellFormed) (inPlace : Bool) (scope : Scope) (keys : List String)
    (newColumns : List NewColumn) :
    (d.regroup inPlace scope keys newColumns).Safe WellFormed := by
  rw [regroup]
  split
  · exact Applied.safe_untouched hd fun _ h => by cases h
  refine Edit.safe_run hd (Edit.wellFormed_atOnce hd fun d' h => ?_) inPlace
  split at h
  · cases h
  next t ht =>
    obtain ⟨g, hg, rfl⟩ := map_eq_ok.mp h
    exact (hd.table.setColumns ht).ofKeys hg

theorem WellFormed.query (hd : d.WellFormed) {scope : Scope} {condition : String}
    (h : d.query scope condition = .ok d') : d'.WellFormed := by
  rw [Dataset.query] at h
  split at h
  · cases h
  split at h
  · cases h
  · obtain ⟨t, ht, rfl⟩ := map_eq_ok.mp h
    exact WellFormed.retag (hd.table.filter ht) d

theorem WellFormed.sample (hd : d.WellFormed) {draws : Draws} {s : Sample}
    (h : d.sample draws s = .ok d') : d'.WellFormed := by
  obtain ⟨t, ht, rfl⟩ := map_eq_ok.mp h
  obtain ⟨positions, _, rfl⟩ := map_eq_ok.mp ht
  exact WellFormed.retag (hd.table.gather positions) d

end Dataset

/-! ## Tables from values -/

theorem Table.wellFormed_ofValues {α : Type} {value : α → Except Error Datum}
    {items : List (String × α)} {t : Table} (h : Table.ofValues value items = .ok t) :
    t.WellFormed := by
  obtain ⟨_, hdraft, _⟩ := map_eq_ok.mp h
  obtain ⟨values, hvalues⟩ := Draft.exists_computed hdraft
  rw [ofValues_computed hvalues] at h
  exact (builtOf_ofValues h).wellFormed

/-! ## Verbs on each group -/

theorem Table.WellFormed.insertKeys {keep : Bool} {place : Nat}
    {columns : List (String × Column)} {t t' : Table} (wf : t.WellFormed)
    (h : t.insertKeys keep place columns = .ok t') : t'.WellFormed := by
  induction columns generalizing t place with
  | nil => cases h; exact wf
  | cons c rest ih =>
      rw [Table.insertKeys] at h
      split at h
      · exact ih wf h
      · split at h
        · cases h
        · next hinsert => exact ih (wf.insertColumn hinsert).1 h

/-- A computation that gives well-formed tables on well-formed ones. One that
gives columns needs no trust. -/
def Computation.Trusted : Computation → Prop
  | .table f => ∀ t t', t.WellFormed → f t = .ok t' → t'.WellFormed
  | .columns _ => True

theorem Computation.wellFormed_run {c : Computation} (hc : c.Trusted) {t t' : Table}
    (wf : t.WellFormed) (h : c.run t = .ok t') : t'.WellFormed := by
  cases c with
  | table f => exact hc t t' wf h
  | columns fs => exact Table.wellFormed_ofValues h

namespace Dataset

variable {d d' : Dataset}

theorem WellFormed.summarize (hd : d.WellFormed) {schedule : Schedule} {scope : Scope}
    {columns : List NewColumn} (h : d.summarize schedule scope columns = .ok d') :
    d'.WellFormed := by
  rw [Dataset.summarize.eq_def] at h
  split at h
  · obtain ⟨t, ht, rfl⟩ := map_eq_ok.mp h
    exact Table.wellFormed_ofValues ht
  · obtain ⟨t, ht, rfl⟩ := map_eq_ok.mp h
    refine Grouped.WellFormed.mapPartitions hd (fun p reduced _ hp => ?_) ht
    split at hp
    · cases hp
    · next hsummary => exact (Table.wellFormed_ofValues hsummary).insertKeys hp

theorem WellFormed.compute (hd : d.WellFormed) {schedule : Schedule} {c : Computation}
    (hc : c.Trusted) (h : d.compute schedule c = .ok d') : d'.WellFormed := by
  rw [Dataset.compute.eq_def] at h
  split at h
  · obtain ⟨t, ht, rfl⟩ := map_eq_ok.mp h
    exact Computation.wellFormed_run hc hd ht
  · simp only at h
    split at h
    · cases h
    next t ht =>
      obtain ⟨g', hg', rfl⟩ := map_eq_ok.mp h
      refine Table.WellFormed.ofKeys (Grouped.WellFormed.mapPartitions hd ?_ ht) hg'
      intro p replaced hwf hp
      split at hp
      · cases hp
      · next hrun => exact (Computation.wellFormed_run hc hwf hrun).insertKeys hp

theorem WellFormed.perGroup (hd : d.WellFormed) {schedule : Schedule} {f : Table → Table}
    (hf : ∀ t, t.WellFormed → (f t).WellFormed) (h : d.perGroup schedule f = .ok d') :
    d'.WellFormed := by
  rw [Dataset.perGroup.eq_def] at h
  split at h
  · cases h
    exact hf _ hd
  split at h
  · cases h
    exact hd
  split at h
  · cases h
  next t ht =>
    obtain ⟨g', hg', rfl⟩ := map_eq_ok.mp h
    refine Table.WellFormed.ofKeys (Grouped.WellFormed.mapPartitions hd ?_ ht) hg'
    intro p part hwf hp
    cases hp
    exact hf _ hwf

end Dataset

/-! ## All verbs -/

/-- A verb whose computation, if it has one, is trusted. -/
def Verb.Trusted : Verb → Prop
  | .compute c => c.Trusted
  | _ => True

/-- Labels are always good, a dataset has to be well formed. -/
def Output.WellFormed : Output → Prop
  | .data d => d.WellFormed
  | .labels _ => True

theorem Session.safe_apply {s : Session} {defaults : Options} {d : Dataset} {verb : Verb}
    (hd : d.WellFormed) (hverb : verb.Trusted) :
    (s.apply defaults d verb).Safe Output.WellFormed := by
  -- a verb that leaves its input alone is safe if the dataset that it gives is well formed
  have hpure : ∀ {result : Except Error Dataset}, (∀ d', result = .ok d' → d'.WellFormed) →
      (Applied.untouched d (result.map Output.data)).Safe Output.WellFormed := by
    intro result h
    refine Applied.safe_untouched hd fun out hout => ?_
    obtain ⟨d', hd', rfl⟩ := map_eq_ok.mp hout
    exact h d' hd'
  have hedit : ∀ {a : Applied Dataset}, a.Safe Dataset.WellFormed →
      (a.map Output.data).Safe Output.WellFormed := fun h => h.map fun _ h => h
  cases verb with
  | select selection => exact hpure fun _ h => hd.select h
  | rename mapping =>
      exact hedit (Edit.safe_run hd (Edit.wellFormed_atOnce hd fun _ h => hd.rename h) _)
  | mutate columns => exact hedit (Dataset.safe_mutate hd _ _ columns)
  | transmute columns => exact hpure fun _ h => hd.transmute h
  | distinct spec => exact hedit (Dataset.safe_distinct hd spec _ _)
  | arrange keys => exact hpure fun _ h => hd.arrange h
  | groupBy keys newColumns => exact hedit (Dataset.safe_regroup hd _ _ keys newColumns)
  | ungroup =>
      refine Applied.safe_untouched hd fun out hout => ?_
      cases hout
      exact hd.table
  | groupIndices keys newColumns =>
      refine Applied.safe_untouched hd fun out hout => ?_
      obtain ⟨labels, _, rfl⟩ := map_eq_ok.mp hout
      exact trivial
  | summarize columns => exact hpure fun _ h => hd.summarize h
  | query condition => exact hpure fun _ h => hd.query h
  | compute computation => exact hpure fun _ h => hd.compute hverb h
  | head n => exact hpure fun _ h => hd.perGroup (fun _ wf => wf.gather _) h
  | tail n => exact hpure fun _ h => hd.perGroup (fun _ wf => wf.gather _) h
  | sample spec => exact hpure fun _ h => hd.sample h

end TableVerbs
