import TableVerbs.Proofs.GroupedRows
import TableVerbs.Proofs.Positions
import TableVerbs.Proofs.WellFormedVerbs

/-!
# Runs of verbs

A caller runs verbs in a row, each under whatever session and options are
current. After a call there are two datasets to go on with, the one that was
given and the one that was put in, which an edit in place may have changed. A
run is a list of calls together with such choices, and whatever a run arrives
at is well formed if it started so.

Along the way rows are gathered, by verbs that sort, sample or split a dataset.
`Call.gatherings` lists what a call gathers, each time a table and the positions
that are taken from it, through the same functions that the verbs use, and
`Verb.Gathers` says what becomes of it in the result. In a table that is well
formed a position in the range of its rows exists in every column as well, so the
invariant of runs is also what gathering rests on.
-/

namespace TableVerbs

/-! ## What is gathered -/

/-- Rows to be gathered: a table and positions in it. -/
structure Gathering where
  table : Table
  positions : List Nat

namespace Gathering

/-- The gathered rows. -/
def result (g : Gathering) : Table := g.table.gather g.positions

/-- Every position is that of a row, with a value in each column. -/
def InBounds (g : Gathering) : Prop :=
  ∀ i ∈ g.positions, i < g.table.rows ∧ ∀ c ∈ g.table.columns, i < c.2.length

/-- Where all positions are in bounds, looking before taking would find nothing
wrong, and no position is passed over. -/
theorem InBounds.take_eq {g : Gathering} (h : g.InBounds) :
    g.table.take g.positions = .ok g.result ∧ g.result.rows = g.positions.length := by
  have hrows : ∀ i ∈ g.positions, i < g.table.rows := fun i hi => (h i hi).1
  exact ⟨Table.take_of_bounds hrows, Table.rows_gather hrows⟩

theorem inBounds_of_rows {t : Table} (wf : t.WellFormed) {positions : List Nat}
    (h : ∀ i ∈ positions, i < t.rows) : InBounds ⟨t, positions⟩ := by
  intro i hi
  refine ⟨h i hi, fun c hc => ?_⟩
  rw [wf.lengths c hc]
  exact h i hi

/-- The gathering of positions that may have failed to be found. -/
def ofPositions (t : Table) (positions : Except Error (List Nat)) : List Gathering :=
  match positions with
  | .ok positions => [⟨t, positions⟩]
  | .error _ => []

theorem inBounds_ofPositions {t : Table} (wf : t.WellFormed)
    {positions : Except Error (List Nat)}
    (h : ∀ found, positions = .ok found → ∀ i ∈ found, i < t.rows) :
    ∀ g ∈ ofPositions t positions, g.InBounds := by
  intro g hg
  rw [ofPositions.eq_def] at hg
  split at hg
  · next found =>
      rw [List.mem_singleton.mp hg]
      exact inBounds_of_rows wf (h found rfl)
  · cases hg

end Gathering

/-- What is gathered to split a grouped table. -/
def Grouped.gatherings (g : Grouped) : List Gathering :=
  match g.table.groupRows g.keys with
  | .ok groups => groups.map fun (_, rows) => ⟨g.table, rows⟩
  | .error _ => []

theorem Grouped.gatherings_eq {g : Grouped} {groups : Groups}
    (hgroups : g.table.groupRows g.keys = .ok groups) :
    g.gatherings = groups.map fun group => ⟨g.table, group.2⟩ := by
  rw [gatherings, hgroups]

theorem Grouped.WellFormed.gatherings_inBounds {g : Grouped} (wf : g.WellFormed) :
    ∀ x ∈ g.gatherings, x.table.WellFormed ∧ x.InBounds := by
  intro x hx
  rw [Grouped.gatherings] at hx
  split at hx
  · next groups hgroups =>
      obtain ⟨group, hgroup, rfl⟩ := List.mem_map.mp hx
      have hbounds := Table.groupRows_bounds hgroups group hgroup
      exact ⟨wf.table, Gathering.inBounds_of_rows wf.table hbounds⟩
  · cases hx

namespace Dataset

/-- What is gathered to split a dataset into its groups; a plain one is not split. -/
def splitGatherings : Dataset → List Gathering
  | .plain _ => []
  | .grouped g => g.gatherings

/-- What is gathered to take some positions of every group. -/
def perGroupGatherings (positions : Table → List Nat) : Dataset → List Gathering
  | .plain t => [⟨t, positions t⟩]
  | .grouped g => g.gatherings ++ g.gatherings.map fun x => ⟨x.result, positions x.result⟩

variable {d : Dataset}

theorem WellFormed.splitGatherings_inBounds (hd : d.WellFormed) :
    ∀ g ∈ d.splitGatherings, g.InBounds := by
  intro x hx
  cases d with
  | plain t => cases hx
  | grouped g => exact (Grouped.WellFormed.gatherings_inBounds hd x hx).2

theorem WellFormed.perGroupGatherings_inBounds (hd : d.WellFormed)
    {positions : Table → List Nat} (h : ∀ t, ∀ i ∈ positions t, i < t.rows) :
    ∀ g ∈ d.perGroupGatherings positions, g.InBounds := by
  intro x hx
  cases d with
  | plain t =>
      rw [List.mem_singleton.mp hx]
      exact Gathering.inBounds_of_rows hd (h t)
  | grouped g =>
      have hsplit := Grouped.WellFormed.gatherings_inBounds hd
      rcases List.mem_append.mp hx with hx | hx
      · exact (hsplit x hx).2
      · obtain ⟨y, hy, rfl⟩ := List.mem_map.mp hx
        exact Gathering.inBounds_of_rows ((hsplit y hy).1.gather y.positions) (h y.result)

end Dataset

/-- What a verb gathers on a dataset. -/
def Session.gatherings (s : Session) (d : Dataset) (verb : Verb) : List Gathering :=
  match verb with
  | .arrange keys =>
    if keys.isEmpty then [] else Gathering.ofPositions d.table (d.table.order s.scope keys)
  | .sample spec => Gathering.ofPositions d.table (spec.positions s.draws d.table)
  | .head n => d.perGroupGatherings (Table.headPositions n)
  | .tail n => d.perGroupGatherings (Table.tailPositions n)
  | .summarize _ | .compute _ => d.splitGatherings
  | .select _ | .rename _ | .mutate _ | .transmute _ | .distinct _ | .groupBy .. | .ungroup
  | .groupIndices .. | .query _ => []

theorem Table.order_bounds {scope : Scope} {keys : List Argument} {t : Table}
    {positions : List Nat} (h : t.order scope keys = .ok positions) :
    ∀ i ∈ positions, i < t.rows := by
  rw [Table.order] at h
  split at h
  · cases h
  · exact Table.sortPositions_bounds h

theorem Session.gatherings_inBounds {s : Session} (hdraws : s.draws.InBounds) {d : Dataset}
    (hd : d.WellFormed) (verb : Verb) : ∀ g ∈ s.gatherings d verb, g.InBounds := by
  cases verb with
  | arrange keys =>
      rw [gatherings]
      split
      · exact fun _ hg => by cases hg
      · exact Gathering.inBounds_ofPositions hd.table fun _ h => Table.order_bounds h
  | sample spec =>
      exact Gathering.inBounds_ofPositions hd.table fun _ h => Sample.positions_bounds hdraws h
  | head n => exact hd.perGroupGatherings_inBounds fun _ => Table.headPositions_bounds n
  | tail n => exact hd.perGroupGatherings_inBounds fun _ => Table.tailPositions_bounds n
  | summarize columns => exact hd.splitGatherings_inBounds
  | compute computation => exact hd.splitGatherings_inBounds
  | select _ | rename _ | mutate _ | transmute _ | distinct _ | groupBy _ _ | ungroup
  | groupIndices _ _ | query _ => exact fun _ hg => by cases hg

/-! ## What becomes of it -/

theorem Groups.Split.eq_nil {groups : Groups} {keyOf : Nat → List Cell}
    (h : groups.Split keyOf []) : groups = [] := by
  refine List.eq_nil_iff_forall_not_mem.mpr fun group hgroup => ?_
  obtain ⟨i, hi⟩ := List.exists_mem_of_ne_nil _ (h.ne_nil hgroup)
  cases h.mem_members.mp (List.mem_flatMap.mpr ⟨group, hgroup, hi⟩)

/-- What is made of the groups without fail is stacked. -/
theorem Grouped.stack_gathered {g : Grouped} {groups : Groups}
    (hgroups : g.table.groupRows g.keys = .ok groups) (hne : groups ≠ []) {f : Table → Table}
    {schedule : Schedule} {t : Table}
    (h : g.mapPartitions (fun p => .ok (f p.table)) schedule = .ok t) :
    Table.stack (g.gatherings.map fun x => f x.result) = .ok t := by
  rw [mapPartitions_eq hgroups hne] at h
  obtain ⟨tables, htables, hstack⟩ := bind_eq_ok.mp h
  cases (mapM_eq_map fun _ _ => rfl).symm.trans (Schedule.collect_eq_ok.mp htables)
  rw [gatherings_eq hgroups, List.map_map]
  exact hstack

namespace Dataset

/-- The groups of a dataset are what is gathered; a plain one has none. -/
def SplitInto (d : Dataset) (gathered : List Gathering) : Prop :=
  match d with
  | .plain _ => gathered = []
  | .grouped g =>
    g.partitions.map (fun ps => ps.map Partition.table) = .ok (gathered.map Gathering.result)

/-- A dataset is cut to what is gathered: the table of a plain one, and of a grouped
one the groups, which are gathered first and stacked in the end. Without rows there
is nothing to gather and nothing to cut. -/
def CutTo (d : Dataset) (gathered : List Gathering) (d' : Dataset) : Prop :=
  match d with
  | .plain t => ∃ x, gathered = [x] ∧ x.table = t ∧ d' = .plain x.result
  | .grouped g =>
    (g.table.rows = 0 ∧ gathered = [] ∧ d' = .grouped g) ∨
      ∃ parts cuts t, gathered = parts ++ cuts ∧ SplitInto (.grouped g) parts ∧
        cuts.map Gathering.table = parts.map Gathering.result ∧
        Table.stack (cuts.map Gathering.result) = .ok t ∧ d' = .grouped { g with table := t }

variable {d d' : Dataset}

theorem WellFormed.splitInto (hd : d.WellFormed) : d.SplitInto d.splitGatherings := by
  cases d with
  | plain t => exact rfl
  | grouped g =>
      obtain ⟨columns, hcolumns⟩ := Table.exists_columnsOf (Grouped.WellFormed.keys_mem hd)
      obtain ⟨groups, hgroups, _⟩ := Table.groupRows_split hcolumns
      show g.partitions.map (fun ps => ps.map Partition.table) =
        .ok (g.gatherings.map Gathering.result)
      rw [Grouped.partitions, Grouped.gatherings_eq hgroups, hgroups, List.map_map]
      exact congrArg Except.ok List.map_map

theorem WellFormed.perGroup_cutTo (hd : d.WellFormed) {schedule : Schedule}
    {positions : Table → List Nat}
    (h : d.perGroup schedule (fun t => t.gather (positions t)) = .ok d') :
    d.CutTo (d.perGroupGatherings positions) d' := by
  cases d with
  | plain t =>
      cases h
      exact ⟨_, rfl, rfl, rfl⟩
  | grouped g =>
      have wf : g.WellFormed := hd
      obtain ⟨columns, hcolumns⟩ := Table.exists_columnsOf wf.keys_mem
      obtain ⟨groups, hgroups, hsplit⟩ := Table.groupRows_split hcolumns
      rw [Dataset.perGroup] at h
      split at h
      · next hrows =>
          cases h
          rw [hrows] at hsplit
          refine .inl ⟨hrows, ?_, rfl⟩
          rw [perGroupGatherings, Grouped.gatherings_eq hgroups, hsplit.eq_nil]
          rfl
      · next hrows =>
          have hne : groups ≠ [] := hsplit.groups_ne_nil (mt List.range_eq_nil.mp hrows)
          split at h
          · cases h
          next t ht =>
            obtain ⟨g', hg', rfl⟩ := map_eq_ok.mp h
            obtain ⟨_, _, rfl⟩ := Grouped.ofKeys_eq_ok.mp hg'
            rw [withoutRepeats_of_nodup wf.keys_nodup]
            have hstack := Grouped.stack_gathered hgroups hne
              (f := fun t => t.gather (positions t)) ht
            refine .inr ⟨g.gatherings, g.gatherings.map fun x => ⟨x.result, positions x.result⟩,
              t, rfl, hd.splitInto, ?_, ?_, rfl⟩
            · rw [List.map_map]
              rfl
            · rw [List.map_map]
              exact hstack

end Dataset

/-- What the rows that a verb gathers have to do with what it gives. Sorting and
sampling give them, cuts give them on top of each other, and reducing and computing
start from them. The other verbs gather nothing. -/
def Verb.Gathers (verb : Verb) (d : Dataset) (gathered : List Gathering) (out : Output) : Prop :=
  match verb with
  | .arrange keys =>
    (keys = [] ∧ gathered = [] ∧ out = .data d) ∨
      ∃ x, gathered = [x] ∧ x.table = d.table ∧ out = .data (d.retag x.result)
  | .sample _ => ∃ x, gathered = [x] ∧ x.table = d.table ∧ out = .data (d.retag x.result)
  | .head _ | .tail _ => ∃ d', out = .data d' ∧ d.CutTo gathered d'
  | .summarize _ | .compute _ => d.SplitInto gathered
  | .select _ | .rename _ | .mutate _ | .transmute _ | .distinct _ | .groupBy .. | .ungroup
  | .groupIndices .. | .query _ => gathered = []

theorem Session.gathers_apply {s : Session} {defaults : Options} {d : Dataset} {verb : Verb}
    {out : Output} (hd : d.WellFormed) (h : (s.apply defaults d verb).outcome = .ok out) :
    verb.Gathers d (s.gatherings d verb) out := by
  cases verb with
  | arrange keys =>
      obtain ⟨d', hd', rfl⟩ := map_eq_ok.mp h
      rw [Dataset.arrange] at hd'
      split at hd'
      · next hkeys =>
          cases hd'
          exact .inl ⟨List.isEmpty_iff.mp hkeys, if_pos hkeys, rfl⟩
      · next hkeys =>
          obtain ⟨found, hfound, rfl⟩ := map_eq_ok.mp hd'
          refine .inr ⟨⟨d.table, found⟩, ?_, rfl, rfl⟩
          rw [gatherings, if_neg hkeys, hfound]
          rfl
  | sample spec =>
      obtain ⟨d', hd', rfl⟩ := map_eq_ok.mp h
      obtain ⟨t, ht, rfl⟩ := map_eq_ok.mp hd'
      obtain ⟨found, hfound, rfl⟩ := map_eq_ok.mp ht
      refine ⟨⟨d.table, found⟩, ?_, rfl, rfl⟩
      rw [gatherings, hfound]
      rfl
  | head n | tail n =>
      obtain ⟨d', hd', rfl⟩ := map_eq_ok.mp h
      exact ⟨d', rfl, hd.perGroup_cutTo hd'⟩
  | summarize columns | compute computation => exact hd.splitInto
  | select _ | rename _ | mutate _ | transmute _ | distinct _ | groupBy _ _ | ungroup
  | groupIndices _ _ | query _ => exact rfl

/-! ## Calls and runs -/

/-- A verb to run, and what to run it under: a session, and the defaults that
are common to all sessions at the time. -/
structure Call where
  session : Session
  defaults : Options
  verb : Verb

namespace Call

/-- What the call gives on a dataset, and what it leaves of it. -/
def applied (c : Call) (d : Dataset) : Applied Output := c.session.apply c.defaults d c.verb

/-- What the call gathers on a dataset. -/
def gatherings (c : Call) (d : Dataset) : List Gathering := c.session.gatherings d c.verb

/-- What comes from outside behaves: draws are rows that exist, and a function
that computes tables gives well-formed ones. -/
structure Trusted (c : Call) : Prop where
  draws : c.session.draws.InBounds
  verb : c.verb.Trusted

/-- The datasets to go on with after a call: the one that was given, if there is
one, and the one that was put in, as it is now. -/
inductive Yields (c : Call) (d : Dataset) : Dataset → Prop where
  | output {d' : Dataset} (h : (c.applied d).outcome = .ok (.data d')) : Yields c d d'
  | input : Yields c d (c.applied d).input

/-- One call, from a well-formed dataset. -/
theorem wellFormed_of_yields {c : Call} (hc : c.Trusted) {d d' : Dataset} (hd : d.WellFormed)
    (h : c.Yields d d') : d'.WellFormed := by
  have hsafe : (c.applied d).Safe Output.WellFormed := Session.safe_apply hd hc.verb
  cases h with
  | output h => exact hsafe.output _ h
  | input => exact hsafe.input

end Call

/-- From a dataset, some calls in a row can lead to another. -/
inductive Run (start : Dataset) : List Call → Dataset → Prop where
  | initial : Run start [] start
  | call {calls : List Call} {c : Call} {d d' : Dataset} (before : Run start calls d)
      (last : c.Yields d d') : Run start (calls ++ [c]) d'

theorem Run.wellFormed {start d : Dataset} {calls : List Call} (hstart : start.WellFormed)
    (hcalls : ∀ c ∈ calls, c.Trusted) (h : Run start calls d) : d.WellFormed := by
  induction h with
  | initial => exact hstart
  | call _ last ih =>
      obtain ⟨hbefore, hlast⟩ := List.forall_mem_append.mp hcalls
      exact Call.wellFormed_of_yields (hlast _ (List.mem_singleton_self _)) (ih hbefore) last

/-- Runs keep datasets well formed and gather only rows that are there. This
holds of every dataset that a run arrives at, of those that another call gives
and leaves, and of all that the call gathers. To look before taking would find
nothing wrong, no position is passed over, and it is these rows that the result
of the call is made of. -/
theorem Run.sound {start d : Dataset} {calls : List Call} {c : Call}
    (hstart : start.WellFormed) (hcalls : ∀ c ∈ calls, c.Trusted) (hc : c.Trusted)
    (h : Run start calls d) :
    d.WellFormed ∧ (c.applied d).input.WellFormed ∧
      (∀ d', (c.applied d).outcome = .ok (.data d') → d'.WellFormed) ∧
      (∀ g ∈ c.gatherings d, g.InBounds ∧ g.table.take g.positions = .ok g.result ∧
        g.result.rows = g.positions.length) ∧
      ∀ out, (c.applied d).outcome = .ok out → c.verb.Gathers d (c.gatherings d) out := by
  have hd := h.wellFormed hstart hcalls
  refine ⟨hd, Call.wellFormed_of_yields hc hd .input, fun d' hd' => ?_, fun g hg => ?_,
    fun out hout => Session.gathers_apply hd hout⟩
  · exact Call.wellFormed_of_yields hc hd (.output hd')
  · have hin := Session.gatherings_inBounds hc.draws hd c.verb g hg
    exact ⟨hin, hin.take_eq⟩

/-- Three rows grouped by their one column, of which each group keeps the first. -/
theorem Run.sound_head_of_groups :
    let d : Dataset := .grouped ⟨⟨[("k", .ints [2, 1, 2])], [0, 1, 2]⟩, ["k"]⟩
    let c : Call := ⟨⟨none, .empty, Draws.first⟩, .standard, .head 1⟩
    let cut : Dataset := .grouped ⟨⟨[("k", .ints [1, 2])], [0, 1]⟩, ["k"]⟩
    cut.WellFormed ∧ (∀ g ∈ c.gatherings d, g.InBounds) ∧ d.CutTo (c.gatherings d) cut := by
  have h := @Run.sound (.plain ⟨[("k", .ints [2, 1, 2])], [0, 1, 2]⟩) _
    [⟨⟨none, .empty, Draws.first⟩, .standard, .groupBy ["k"] []⟩]
    ⟨⟨none, .empty, Draws.first⟩, .standard, .head 1⟩ ⟨by decide, by decide⟩
    (fun c hc => by rw [List.mem_singleton.mp hc]; exact ⟨Draws.inBounds_first, trivial⟩)
    ⟨Draws.inBounds_first, trivial⟩ (.call .initial (.output rfl))
  obtain ⟨_, _, houtput, hgathered, hgathers⟩ := h
  obtain ⟨_, hcut, hcutTo⟩ := hgathers _ rfl
  cases hcut
  exact ⟨houtput _ rfl, fun g hg => (hgathered g hg).1, hcutTo⟩

end TableVerbs
